import Mathlib
import SchoolCatalog.Number.Reading
import SchoolCatalog.Number.Word

/-!
# Numbers in digits

What the readers of numbers make of a number that is written in decimal digits.

Result: `readInteger_toString`, a number of 64 bits is read as it was written.
-/

namespace SchoolCatalog

namespace Number

/-- What the readers of numbers ask about a character, answered for the digits. -/
theorem digit_facts {c : Char} (h : c.isDigit = true) :
    Text.isBlank c = false ∧ Text.asciiDigits [c] = [c] ∧ c ≠ '-' ∧ c ≠ '+' ∧ c ≠ '_' := by
  have hrange : ∀ n : Fin 10, Text.isBlank (Char.ofNat (48 + n)) = false ∧
      Text.asciiDigits [Char.ofNat (48 + n)] = [Char.ofNat (48 + n)] ∧
      Char.ofNat (48 + n) ≠ '-' ∧ Char.ofNat (48 + n) ≠ '+' ∧ Char.ofNat (48 + n) ≠ '_' := by
    decide
  have hbounds : 48 ≤ c.toNat ∧ c.toNat ≤ 57 := Char.isDigit_iff_toNat.1 h
  have hchar : Char.ofNat (48 + (c.toNat - 48)) = c := by
    rw [Nat.add_sub_cancel' hbounds.1, Char.ofNat_toNat]
  have hfacts := hrange ⟨c.toNat - 48, by omega⟩
  rwa [hchar] at hfacts

theorem trimList_of_none {p : Char → Bool} {cs : List Char} (h : ∀ c ∈ cs, p c = false) :
    Text.trimList p cs = cs := by
  have hkeep {ds : List Char} (hds : ∀ c ∈ ds, p c = false) : ds.dropWhile p = ds := by
    cases ds with
    | nil => rfl
    | cons d rest => rw [List.dropWhile_cons, hds d (List.mem_cons_self ..), if_neg Bool.false_ne_true]
  unfold Text.trimList
  rw [hkeep h, hkeep fun c hc => h c (List.mem_reverse.1 hc), List.reverse_reverse]

theorem asciiDigits_digits {cs : List Char} (h : ∀ c ∈ cs, c.isDigit = true) :
    Text.asciiDigits cs = cs := by
  unfold Text.asciiDigits
  conv => rhs; rw [← List.map_id cs]
  refine List.map_congr_left fun c hc => ?_
  exact List.head_eq_of_cons_eq (digit_facts (h c hc)).2.1

theorem dropUnderscores?_digits {cs : List Char} (h : ∀ c ∈ cs, c.isDigit = true)
    (previous : Option Char) (hprevious : previous ≠ some '_') :
    dropUnderscores? previous cs = some cs := by
  induction cs generalizing previous with
  | nil => simp [dropUnderscores?, hprevious]
  | cons c rest ih =>
    have hc := digit_facts (h c (List.mem_cons_self ..))
    rw [dropUnderscores?, if_neg hc.2.2.2.2, if_neg (by simp [hprevious]),
      ih (fun d hd => h d (List.mem_cons_of_mem c hd)) _ (by simpa using hc.2.2.2.2), Option.map_some]

theorem trim_digits {cs : List Char} (h : ∀ c ∈ cs, c.isDigit = true) :
    Text.trim (String.ofList cs) = String.ofList cs := by
  rw [Text.trim, Text.trimBy, String.toList_ofList, trimList_of_none fun c hc => (digit_facts (h c hc)).1]

theorem plainChars_digits {cs : List Char} (h : ∀ c ∈ cs, c.isDigit = true) :
    plainChars (String.ofList cs) = cs := by
  have hspace : ∀ c ∈ cs, Text.isSpace c = false := by
    intro c hc
    cases hspace : Text.isSpace c with
    | false => rfl
    | true =>
      have hblank := (digit_facts (h c hc)).1
      rw [Text.isBlank_of_isSpace hspace] at hblank
      exact nomatch hblank
  rw [plainChars, String.toList_ofList, trimList_of_none hspace, asciiDigits_digits h]

theorem takeSign_digits {cs : List Char} (h : ∀ c ∈ cs, c.isDigit = true) :
    takeSign cs = (false, cs) := by
  cases cs with
  | nil => rfl
  | cons c rest =>
    have hc := digit_facts (h c (List.mem_cons_self ..))
    unfold takeSign
    split
    next hminus => exact absurd (List.head_eq_of_cons_eq hminus) hc.2.2.1
    next hplus => exact absurd (List.head_eq_of_cons_eq hplus) hc.2.2.2.1
    next => rfl

theorem takeMinus_digits {cs : List Char} (h : ∀ c ∈ cs, c.isDigit = true) (hne : cs ≠ [])
    (negative : Bool) (rest : List Char) :
    takeMinus ((if negative then ['-'] else []) ++ (cs ++ rest)) = (negative, cs ++ rest) := by
  cases negative with
  | true => rfl
  | false =>
    obtain ⟨c, tail, rfl⟩ := List.exists_cons_of_ne_nil hne
    have hc := digit_facts (h c (List.mem_cons_self ..))
    rw [if_neg (by decide), List.nil_append]
    unfold takeMinus
    split
    next hminus => exact absurd (List.head_eq_of_cons_eq hminus) hc.2.2.1
    next => rfl

theorem digitsValue_toDigits (m : Nat) : digitsValue (Nat.toDigits 10 m) = m := by
  have hfold := Nat.ofDigitChars_ten_toDigits (n := m)
  simp only [Nat.ofDigitChars_eq_foldl, Nat.mul_comm 10] at hfold
  exact hfold

theorem isDigit_toDigits (m : Nat) : ∀ c ∈ Nat.toDigits 10 m, c.isDigit = true :=
  fun _ hc => Nat.isDigit_of_mem_toDigits (by decide) (by decide) hc

theorem toString_nat (m : Nat) : toString m = String.ofList (Nat.toDigits 10 m) :=
  Nat.repr_eq_ofList_toDigits

theorem toString_injective {m n : Nat} (h : toString m = toString n) : m = n := by
  rw [toString_nat, toString_nat] at h
  rw [← digitsValue_toDigits m, String.ofList_injective h, digitsValue_toDigits]

theorem toString_natCast (m : Nat) : toString (m : Int) = String.ofList (Nat.toDigits 10 m) :=
  Nat.repr_eq_ofList_toDigits

theorem toList_toString (i : Int) :
    (toString i).toList = (if decide (i < 0) then ['-'] else []) ++ Nat.toDigits 10 i.natAbs := by
  cases i with
  | ofNat m =>
    show (toString (m : Int)).toList = _
    rw [toString_natCast, String.toList_ofList]
    rfl
  | negSucc m =>
    rw [decide_eq_true (Int.negSucc_lt_zero m)]
    show ("-" ++ Nat.repr (m + 1)).toList = '-' :: Nat.toDigits 10 (m + 1)
    rw [String.toList_append, Nat.repr_eq_ofList_toDigits]
    exact congrArg ('-' :: ·) String.toList_ofList

theorem trim_toString {n : Int} (h : 0 ≤ n) : Text.trim (toString n) = toString n := by
  obtain ⟨m, rfl⟩ := Int.eq_ofNat_of_zero_le h
  rw [toString_natCast, trim_digits (isDigit_toDigits m)]

/-- A number that is written in digits is read as that number. -/
theorem readInteger_toString {n : Int} (hpos : 0 < n) (hmost : n ≤ greatestWord) :
    readInteger (toString n) = .ok n := by
  obtain ⟨m, rfl⟩ := Int.eq_ofNat_of_zero_le (Int.le_of_lt hpos)
  have hdigits := isDigit_toDigits m
  have hrun : (Nat.toDigits 10 m).takeWhile (fun c => c.isDigit || c = '_') = Nat.toDigits 10 m :=
    List.takeWhile_eq_self_iff.2 fun c hc => by rw [hdigits c hc, Bool.true_or]
  -- nineteen digits are far below the limit on how long an integer may be
  have hshort : (Nat.toDigits 10 m).length ≤ maxDigits := by
    refine Nat.le_trans ((Nat.length_toDigits_le_iff (by decide) (k := 19) (by decide)).2 ?_) (by decide)
    have hword : (m : Int) ≤ 9223372036854775807 := hmost
    omega
  rw [toString_natCast, readInteger, plainChars_digits hdigits, takeSign_digits hdigits]
  dsimp only
  rw [hrun, dropUnderscores?_digits hdigits none (by simp)]
  dsimp only
  rw [if_neg (Nat.not_lt.2 hshort), if_neg (by simp [Nat.toDigits_ne_nil]), digitsValue_toDigits]
  rfl

end Number
end SchoolCatalog
