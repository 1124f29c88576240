import SchoolCatalog.Calendar
import SchoolCatalog.Store.Cell
import SchoolCatalog.Proofs.Number.Digits

/-!
# Stamps

A stamp begins with the digits of its year and a dash, so it does not look like a number, and a column of
instants keeps it as the text that it is.

Results:
1. `readStored?_dashed`: digits with a dash after them are no number.
2. `IsStamp.store`: stamps are stored as they are.
-/

namespace SchoolCatalog

/-- The text of an instant that has one. -/
def IsStamp (s : String) : Prop := ∃ instant, stamp? instant = some s

/-! ## Texts that look like no number -/

namespace Text

/-- Trimming keeps what stands before an item that is kept. -/
theorem trimList_kept {p : Char → Bool} {c d : Char} (before after : List Char) (hc : p c = false)
    (hd : p d = false) :
    ∃ rest, trimList p (c :: before ++ d :: after) = c :: before ++ d :: rest := by
  have hfront : (c :: before ++ d :: after).dropWhile p = c :: before ++ d :: after := by
    rw [List.cons_append, List.dropWhile_cons_of_neg (by simp [hc])]
  have hback : ((c :: before ++ d :: after).reverse.dropWhile p).reverse =
      c :: before ++ d :: (after.reverse.dropWhile p).reverse := by
    rw [List.reverse_append, List.reverse_cons, List.append_assoc, List.dropWhile_append]
    split
    next hnone =>
      rw [List.isEmpty_iff.1 hnone, List.singleton_append, List.dropWhile_cons_of_neg (by simp [hd])]
      simp
    next => simp
  exact ⟨_, by rw [trimList, hfront, hback]⟩

end Text

namespace Number

variable {digits rest : List Char}

theorem isAsciiSpace_digit {c : Char} (h : c.isDigit = true) : Text.isAsciiSpace c = false := by
  have hblank := (digit_facts h).1
  cases hspace : Text.isAsciiSpace c with
  | false => rfl
  | true =>
    have hwide : Text.isSpace c = true := by
      simp only [Text.isAsciiSpace, Bool.or_eq_true, Bool.and_eq_true, decide_eq_true_eq] at hspace
      rcases hspace with hrange | rfl
      · simp [Text.isSpace, hrange]
      · rfl
    exact (Text.isBlank_of_isSpace hwide).symm.trans hblank

theorem takeWhile_dashed (h : ∀ c ∈ digits, c.isDigit = true) :
    (digits ++ '-' :: rest).takeWhile Char.isDigit = digits := by
  rw [List.takeWhile_append_of_pos h, List.takeWhile_cons_of_neg (by decide), List.append_nil]

theorem dropWhile_dashed (h : ∀ c ∈ digits, c.isDigit = true) :
    (digits ++ '-' :: rest).dropWhile Char.isDigit = '-' :: rest := by
  rw [List.dropWhile_append_of_pos h, List.dropWhile_cons_of_neg (by decide)]

theorem readFraction?_dashed (h : ∀ c ∈ digits, c.isDigit = true) (negative : Bool) :
    readFraction? negative (digits ++ '-' :: rest) = none := by
  unfold readFraction?
  rw [takeWhile_dashed h, dropWhile_dashed h]
  -- a dash begins neither places nor an exponent
  show (if digits.isEmpty && true then none else Option.map _ (none : Option Int)) = none
  rw [Option.map_none, ite_self]

/-- Digits with a dash after them do not look like a number. -/
theorem readStored?_dashed (hne : digits ≠ []) (h : ∀ c ∈ digits, c.isDigit = true) :
    readStored? (String.ofList (digits ++ '-' :: rest)) = none := by
  obtain ⟨d, ds, rfl⟩ := List.exists_cons_of_ne_nil hne
  have hd := h d (List.mem_cons_self ..)
  obtain ⟨tail, htrim⟩ := Text.trimList_kept ds rest (p := Text.isAsciiSpace)
    (isAsciiSpace_digit hd) (by decide : Text.isAsciiSpace '-' = false)
  have hsign : takeSign (d :: ds ++ '-' :: tail) = (false, d :: ds ++ '-' :: tail) := by
    obtain ⟨_, _, hminus, hplus, _⟩ := digit_facts hd
    unfold takeSign
    split
    next heq => exact absurd (List.cons.inj heq).1 hminus
    next heq => exact absurd (List.cons.inj heq).1 hplus
    next => rfl
  have hdash : (d :: ds ++ '-' :: tail).all Char.isDigit = false := by
    rw [List.all_eq_false]
    exact ⟨'-', by simp, by decide⟩
  unfold readStored?
  rw [String.toList_ofList, htrim, hsign]
  dsimp only
  rw [hdash, readFraction?_dashed h]
  simp

end Number

/-! ## Stamps -/

theorem zeroPadded_digits (width n : Nat) : ∃ digits : List Char, digits ≠ [] ∧
    (∀ c ∈ digits, c.isDigit = true) ∧ zeroPadded width n = String.ofList digits := by
  refine ⟨_, ?_, ?_, rfl⟩
  · simp [Nat.toDigits_ne_nil]
  · intro c hc
    rcases List.mem_append.1 hc with hc | hc
    · rw [List.eq_of_mem_replicate hc]
      rfl
    · exact Number.isDigit_toDigits n c hc

/-- A stamp begins with its year and a dash. -/
theorem stampText_year (instant : Nat) : ∃ rest : String,
    stampText instant =
      zeroPadded 4 (Date.ofDays (instant / microsecondsPerDay)).year ++ ("-" ++ rest) := by
  unfold stampText
  simp only [String.append_assoc]
  exact ⟨_, Eq.refl _⟩

theorem readStored?_stampText (instant : Nat) : Number.readStored? (stampText instant) = none := by
  obtain ⟨rest, hyear⟩ := stampText_year instant
  obtain ⟨digits, hne, hdigits, hpadded⟩ :=
    zeroPadded_digits 4 (Date.ofDays (instant / microsecondsPerDay)).year
  have hchars : stampText instant = String.ofList (digits ++ '-' :: rest.toList) := by
    rw [hyear, hpadded, String.ofList_append, String.ofList_cons, String.ofList_toList]
    rfl
  rw [hchars]
  exact Number.readStored?_dashed hne hdigits

/-- A stamp does not look like a number. -/
theorem IsStamp.readStored? {s : String} (h : IsStamp s) : Number.readStored? s = none := by
  obtain ⟨instant, hstamp⟩ := h
  unfold stamp? at hstamp
  split at hstamp
  next => exact Option.some.inj hstamp ▸ readStored?_stampText _
  next => exact nomatch hstamp

open Store in
/-- A column of instants keeps a stamp as it is. -/
theorem IsStamp.store {s : String} (h : IsStamp s) :
    Affinity.numeric.store (.text s) = .text s := by
  show Affinity.toNumeric (.text s) = _
  rw [Affinity.toNumeric, h.readStored?]

end SchoolCatalog
