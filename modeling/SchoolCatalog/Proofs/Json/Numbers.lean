import SchoolCatalog.Proofs.Json.Texts
import SchoolCatalog.Proofs.Number.Digits

/-!
# JSON numbers read back

A number in a JSON text is a whole part, a fraction and an exponent, and it is read up to the first
character that continues none of them. A value is followed by the end of the text, by a comma or by a
closing mark, which are no such characters. So an integer is read as that integer, and any other number
that was written is read to its end.

Results:
1. `readNumber_toString`: a written integer.
2. `readNumber_numeral`: a text with a fraction or an exponent.
3. `isNumeral_text`: such a text is written for every finite number.
4. `readValue_number`, `readValue_numberText`: where a number stands as a value.
-/

namespace SchoolCatalog.Json

/-! ## Parts of a number -/

/-- What may stand after a value: nothing, a comma or a closing mark. -/
inductive GoesOn : List Char → Prop
  | done : GoesOn []
  | comma (tail : List Char) : GoesOn (',' :: tail)
  | brace (tail : List Char) : GoesOn ('\x7d' :: tail)
  | bracket (tail : List Char) : GoesOn (']' :: tail)

/-- A list of characters that does not begin with a digit. -/
def Undigited (rest : List Char) : Prop := ∀ c ∈ rest.head?, c.isDigit = false

/-- Digits, at least one. -/
structure IsDigits (cs : List Char) : Prop where
  ne_nil : cs ≠ []
  all : ∀ c ∈ cs, c.isDigit = true

/-- The whole part of a number, in which no zero stands before other digits. -/
structure IsWhole (cs : List Char) : Prop extends IsDigits cs where
  plain : cs = ['0'] ∨ cs.head? ≠ some '0'

/-- A fraction, which may be missing. -/
inductive IsFraction : List Char → Prop
  | none : IsFraction []
  | places {cs : List Char} : IsDigits cs → IsFraction ('.' :: cs)

/-- An exponent, which may be missing. -/
inductive IsExponent : List Char → Prop
  | none : IsExponent []
  | signed {sign : Char} {cs : List Char} :
    sign = '+' ∨ sign = '-' → IsDigits cs → IsExponent ('e' :: sign :: cs)

variable {off : Nat} {cs rest whole fraction exponent : List Char}

theorem Undigited.takeWhile (h : Undigited rest) : rest.takeWhile Char.isDigit = [] := by
  cases rest with
  | nil => rfl
  | cons c tail => rw [List.takeWhile_cons, h c rfl, if_neg (by decide)]

theorem Undigited.dropWhile (h : Undigited rest) : rest.dropWhile Char.isDigit = rest := by
  cases rest with
  | nil => rfl
  | cons c tail => rw [List.dropWhile_cons, h c rfl, if_neg (by decide)]

theorem IsDigits.takeWhile_append (h : IsDigits cs) (hrest : Undigited rest) :
    (cs ++ rest).takeWhile Char.isDigit = cs := by
  rw [List.takeWhile_append_of_pos h.all, hrest.takeWhile, List.append_nil]

theorem IsDigits.dropWhile_append (h : IsDigits cs) (hrest : Undigited rest) :
    (cs ++ rest).dropWhile Char.isDigit = rest := by
  rw [List.dropWhile_append_of_pos h.all, hrest.dropWhile]

theorem IsDigits.length_ne_zero (h : IsDigits cs) : cs.length ≠ 0 :=
  fun hzero => h.ne_nil (List.length_eq_zero_iff.1 hzero)

theorem GoesOn.undigited (h : GoesOn rest) : Undigited rest := by
  cases h <;> rintro c ⟨⟩ <;> rfl

theorem IsExponent.undigited_append (h : IsExponent exponent) (hrest : GoesOn rest) :
    Undigited (exponent ++ rest) := by
  cases h with
  | none => exact hrest.undigited
  | signed hsign hdigits => rintro c ⟨⟩; rfl

theorem IsFraction.undigited_append (h : IsFraction fraction) (hrest : Undigited rest) :
    Undigited (fraction ++ rest) := by
  cases h with
  | none => exact hrest
  | places hdigits => rintro c ⟨⟩; rfl

/-! ## How far each part is read -/

theorem IsWhole.wholeLength_append (h : IsWhole whole) (hrest : Undigited rest) :
    wholeLength (whole ++ rest) = whole.length := by
  obtain ⟨c, tail, rfl⟩ := List.exists_cons_of_ne_nil h.ne_nil
  unfold wholeLength
  split
  next heq =>
    obtain rfl := List.head_eq_of_cons_eq heq
    rcases h.plain with hzero | hother
    · rw [hzero]
      rfl
    · exact absurd rfl hother
  next => rw [h.takeWhile_append hrest]

theorem IsFraction.fractionLength_append (h : IsFraction fraction) (hexponent : IsExponent exponent)
    (hrest : GoesOn rest) : fractionLength (fraction ++ (exponent ++ rest)) = fraction.length := by
  cases h with
  | none =>
    cases hexponent with
    | none => cases hrest <;> rfl
    | signed hsign hdigits => rfl
  | places hdigits =>
    rw [List.cons_append, fractionLength,
      hdigits.takeWhile_append (hexponent.undigited_append hrest)]
    exact if_neg hdigits.length_ne_zero

theorem IsExponent.exponentLength_append (h : IsExponent exponent) (hrest : GoesOn rest) :
    exponentLength (exponent ++ rest) = exponent.length := by
  cases h with
  | none => cases hrest <;> rfl
  | @signed sign cs hsign hdigits =>
    have hread : exponentLength ('e' :: sign :: (cs ++ rest)) =
        if ((cs ++ rest).takeWhile Char.isDigit).length = 0 then 0
        else 1 + 1 + ((cs ++ rest).takeWhile Char.isDigit).length := by
      rcases hsign with rfl | rfl <;> rfl
    rw [List.cons_append, List.cons_append, hread, hdigits.takeWhile_append hrest.undigited,
      if_neg hdigits.length_ne_zero, List.length_cons, List.length_cons]
    omega

/-! ## Integers -/

theorem head_toDigits {n : Nat} (h : 0 < n) : (Nat.toDigits 10 n).head? ≠ some '0' := by
  induction n using Nat.strongRecOn with
  | ind n ih =>
    rw [Nat.toDigits_eq_if (by decide)]
    split
    next hsmall =>
      have hdigit : ∀ k < 10, 0 < k → [Nat.digitChar k].head? ≠ some '0' := by decide
      exact hdigit n hsmall h
    next hlarge =>
      have hrest := ih (n / 10) (by omega) (by omega)
      obtain ⟨c, cs, hcs⟩ := List.exists_cons_of_ne_nil (@Nat.toDigits_ne_nil (n / 10) 10)
      rw [hcs] at hrest ⊢
      exact hrest

theorem isDigits_toDigits (n : Nat) : IsDigits (Nat.toDigits 10 n) :=
  ⟨Nat.toDigits_ne_nil, Number.isDigit_toDigits n⟩

/-- Only zero begins with a zero. -/
theorem isWhole_toDigits (n : Nat) : IsWhole (Nat.toDigits 10 n) := by
  refine ⟨isDigits_toDigits n, ?_⟩
  rcases Nat.eq_zero_or_pos n with rfl | hpos
  · exact .inl rfl
  · exact .inr (head_toDigits hpos)

theorem digits_short {n k : Nat} (hk : 0 < k) (h : ¬ Nat.pow 10 k ≤ n) :
    (Nat.toDigits 10 n).length ≤ k :=
  (Nat.length_toDigits_le_iff (by decide) hk).2 (Nat.lt_of_not_le h)

/-- Digits, with or without a minus in front, are read as a number. -/
theorem readNumber_digits (negative : Bool) (n : Nat)
    (hshort : (Nat.toDigits 10 n).length ≤ Number.maxDigits) (hrest : GoesOn rest) :
    readNumber ⟨off, (if negative then ['-'] else []) ++ (Nat.toDigits 10 n ++ rest), []⟩ =
      .ok (.int (if negative then -(n : Int) else n),
        ⟨off + ((Nat.toDigits 10 n).length + if negative then 1 else 0), rest, []⟩) := by
  have hwhole := (isWhole_toDigits n).wholeLength_append hrest.undigited
  have hfraction : fractionLength rest = 0 := IsFraction.none.fractionLength_append .none hrest
  have hexponent : exponentLength rest = 0 := IsExponent.none.exponentLength_append hrest
  rw [readNumber]
  dsimp only
  rw [Number.takeMinus_digits (Number.isDigit_toDigits n) Nat.toDigits_ne_nil]
  dsimp only
  rw [hwhole, if_neg (isDigits_toDigits n).length_ne_zero, List.drop_left, hfraction, Nat.add_zero,
    List.drop_left, hexponent, if_pos rfl, if_neg (Nat.not_lt.2 hshort), List.take_left,
    Number.digitsValue_toDigits]
  have hlength : ((if negative then ['-'] else []) ++ Nat.toDigits 10 n).length =
      (Nat.toDigits 10 n).length + if negative then 1 else 0 := by
    rw [List.length_append, Nat.add_comm]
    cases negative <;> rfl
  have hadvance := @advance_append off _ rest _ hlength
  rw [List.append_assoc] at hadvance
  rw [Nat.add_zero, hadvance]

/-- A written integer is read as that integer. -/
theorem readNumber_toString {i : Int} (h : isLongInteger i = false) (hrest : GoesOn rest) :
    ∃ off', readNumber ⟨off, (toString i).toList ++ rest, []⟩ = .ok (.int i, ⟨off', rest, []⟩) := by
  have hread := @readNumber_digits off rest (decide (i < 0)) i.natAbs
    (digits_short (by decide) (of_decide_eq_false h)) hrest
  have hvalue : (if decide (i < 0) then -(i.natAbs : Int) else i.natAbs) = i := by
    split
    next hneg => rw [decide_eq_true_eq] at hneg; omega
    next hpos => rw [decide_eq_true_eq] at hpos; omega
  rw [hvalue] at hread
  rw [Number.toList_toString, List.append_assoc]
  exact ⟨_, hread⟩

/-! ## Numbers with a fraction or an exponent -/

/-- The text of a number that is not written as an integer. -/
inductive IsNumeral : List Char → Prop
  | intro (negative : Bool) {whole fraction exponent : List Char} :
    IsWhole whole → IsFraction fraction → IsExponent exponent → fraction ≠ [] ∨ exponent ≠ [] →
      IsNumeral ((if negative then ['-'] else []) ++ (whole ++ (fraction ++ exponent)))

theorem IsExponent.scan (h : IsExponent exponent) : ∃ e, Number.scanExponent? exponent = some e := by
  cases h with
  | none => exact ⟨0, rfl⟩
  | @signed sign cs hsign hdigits =>
    have hchecked : (cs.isEmpty || !cs.all Char.isDigit) = false := by
      rw [List.all_eq_true.2 hdigits.all, List.isEmpty_eq_false_iff.2 hdigits.ne_nil]
      rfl
    rcases hsign with rfl | rfl
    · exact ⟨_, by
        rw [Number.scanExponent?, if_pos (by decide), Number.takeSign]
        exact if_neg (Bool.eq_false_iff.1 hchecked)⟩
    · exact ⟨_, by
        rw [Number.scanExponent?, if_pos (by decide), Number.takeSign]
        exact if_neg (Bool.eq_false_iff.1 hchecked)⟩

theorem scanDecimal?_numeral (hwhole : IsWhole whole) (hfraction : IsFraction fraction)
    (hexponent : IsExponent exponent) :
    ∃ d, Number.scanDecimal? (whole ++ (fraction ++ exponent)) = some d := by
  have hend : Undigited exponent := by
    have happend := hexponent.undigited_append .done
    rwa [List.append_nil] at happend
  have hafter := hfraction.undigited_append hend
  have hsome : whole.isEmpty = false := List.isEmpty_eq_false_iff.2 hwhole.ne_nil
  obtain ⟨e, he⟩ := hexponent.scan
  unfold Number.scanDecimal?
  dsimp only
  rw [hwhole.takeWhile_append hafter, hwhole.dropWhile_append hafter, hsome, Bool.false_and,
    if_neg (by decide)]
  cases hfraction with
  | none =>
    cases hexponent with
    | none => exact ⟨_, rfl⟩
    | signed hsign hdigits => exact ⟨_, congrArg (Option.map _) he⟩
  | places hdigits =>
    have hdrop := hdigits.dropWhile_append hend
    exact ⟨_, congrArg (Option.map _) ((congrArg Number.scanExponent? hdrop).trans he)⟩

/-- A number with a fraction or an exponent is read to its end. -/
theorem readNumber_numeral (h : IsNumeral cs) (hrest : GoesOn rest) : ∃ x off',
    readNumber ⟨off, cs ++ rest, []⟩ = .ok (.real x, ⟨off', rest, []⟩) := by
  cases h with
  | @intro negative whole fraction exponent hwhole hfraction hexponent hsome =>
    obtain ⟨d, hd⟩ := scanDecimal?_numeral hwhole hfraction hexponent
    have hparts : fraction.length + exponent.length ≠ 0 := by
      rcases hsome with h | h
      · have := List.length_pos_iff.2 h
        omega
      · have := List.length_pos_iff.2 h
        omega
    have hsize : (whole ++ (fraction ++ exponent)).length =
        whole.length + fraction.length + exponent.length := by
      rw [List.length_append, List.length_append, Nat.add_assoc]
    have hlength : ((if negative then ['-'] else []) ++ (whole ++ (fraction ++ exponent))).length =
        whole.length + fraction.length + exponent.length + if negative then 1 else 0 := by
      rw [List.length_append, hsize, Nat.add_comm]
      cases negative <;> rfl
    have hadvance := @advance_append off _ rest _ hlength
    have htake := @List.take_left' _ (whole ++ (fraction ++ exponent)) rest _ hsize
    have hafter := hfraction.undigited_append (hexponent.undigited_append hrest)
    simp only [List.append_assoc] at hadvance htake ⊢
    rw [readNumber]
    dsimp only
    rw [Number.takeMinus_digits hwhole.all hwhole.ne_nil]
    dsimp only
    rw [hwhole.wholeLength_append hafter, if_neg hwhole.length_ne_zero, List.drop_left,
      hfraction.fractionLength_append hexponent hrest, ← List.drop_drop, List.drop_left, List.drop_left,
      hexponent.exponentLength_append hrest, if_neg hparts, hadvance, htake, hd]
    exact ⟨_, _, rfl⟩

/-! ## How such numbers are written -/

/-- Digits that do not begin with a zero. -/
structure IsMantissa (c : Char) (tail : List Char) : Prop where
  first : c.isDigit = true
  rest : ∀ x ∈ tail, x.isDigit = true
  nonzero : c ≠ '0'

variable {c : Char} {tail : List Char}

theorem IsMantissa.all (h : IsMantissa c tail) : ∀ x ∈ c :: tail, x.isDigit = true :=
  List.forall_mem_cons.2 ⟨h.first, h.rest⟩

theorem IsMantissa.isWhole (h : IsMantissa c tail) : IsWhole (c :: tail) :=
  ⟨⟨List.cons_ne_nil _ _, h.all⟩, .inr fun heq => h.nonzero (Option.some.inj heq)⟩

theorem isWhole_zero : IsWhole ['0'] :=
  ⟨⟨List.cons_ne_nil _ _, List.forall_mem_singleton.2 rfl⟩, .inl rfl⟩

theorem isDigit_zeros {x : Char} {k : Nat} (hx : x ∈ List.replicate k '0') : x.isDigit = true :=
  List.eq_of_mem_replicate hx ▸ rfl

/-- The digits that are left when the zeros at the end are dropped. -/
theorem trimZeros_toDigits {n : Nat} (h : n ≠ 0) : ∃ c tail,
    Decimal.trimZeros (Nat.toDigits 10 n) = c :: tail ∧ IsMantissa c tail := by
  have hfirst := head_toDigits (Nat.pos_of_ne_zero h)
  have hall := Number.isDigit_toDigits n
  have hpart : Decimal.trimZeros (Nat.toDigits 10 n) <+: Nat.toDigits 10 n :=
    List.rdropWhile_prefix (· == '0') (Nat.toDigits 10 n)
  obtain ⟨c, digits, hdigits⟩ := List.exists_cons_of_ne_nil (@Nat.toDigits_ne_nil n 10)
  rw [hdigits] at hfirst hall hpart ⊢
  have hc : c ≠ '0' := fun heq => hfirst (congrArg some heq)
  have hne : Decimal.trimZeros (c :: digits) ≠ [] := by
    intro hnil
    have hzeros := (@List.rdropWhile_eq_nil_iff _ (· == '0') (c :: digits)).1 hnil
    exact hc (eq_of_beq (hzeros c (List.mem_cons_self ..)))
  obtain ⟨e, tail, htail⟩ := List.exists_cons_of_ne_nil hne
  rw [htail] at hpart ⊢
  obtain rfl := (List.cons_prefix_cons.1 hpart).1
  have hdigit : ∀ x ∈ e :: tail, x.isDigit = true := fun x hx => hall x (hpart.mem hx)
  exact ⟨e, tail, rfl, hdigit e (List.mem_cons_self ..),
    fun x hx => hdigit x (List.mem_cons_of_mem _ hx), hc⟩

theorem isExponent_exponentText (e : Int) :
    IsExponent (Decimal.exponentText e).toList ∧ (Decimal.exponentText e).toList ≠ [] := by
  have hdigits := isDigits_toDigits e.natAbs
  have hpadded : IsDigits (if (Nat.toDigits 10 e.natAbs).length < 2 then '0' :: Nat.toDigits 10 e.natAbs
      else Nat.toDigits 10 e.natAbs) := by
    split
    · exact ⟨List.cons_ne_nil _ _, List.forall_mem_cons.2 ⟨rfl, hdigits.all⟩⟩
    · exact hdigits
  unfold Decimal.exponentText Decimal.digitsOf
  dsimp only
  rw [String.toList_append, String.toList_ofList]
  split
  · exact ⟨.signed (.inr rfl) hpadded, List.cons_ne_nil _ _⟩
  · exact ⟨.signed (.inl rfl) hpadded, List.cons_ne_nil _ _⟩

/-- A number with places and no exponent. -/
theorem isNumeral_places (negative : Bool) (hwhole : IsWhole whole) (hplaces : IsDigits cs) :
    IsNumeral ((if negative then ['-'] else []) ++ (whole ++ '.' :: cs)) := by
  have hnumeral := IsNumeral.intro negative hwhole (.places hplaces) .none (.inl (List.cons_ne_nil _ _))
  rwa [List.append_nil] at hnumeral

/-- Zeros stand after the point of a number below one. -/
theorem isDigits_below (k : Nat) (h : IsMantissa c tail) :
    IsDigits (List.replicate k '0' ++ c :: tail) :=
  ⟨by simp, List.forall_mem_append.2 ⟨fun _ => isDigit_zeros, h.all⟩⟩

/-- The digits before the point, filled up with zeros. -/
theorem isWhole_before (n k : Nat) (h : IsMantissa c tail) :
    IsWhole ((c :: tail).take (n + 1) ++ List.replicate k '0') := by
  have hbefore : IsMantissa c (tail.take n ++ List.replicate k '0') :=
    ⟨h.first,
      List.forall_mem_append.2 ⟨fun x hx => h.rest x (List.mem_of_mem_take hx), fun _ => isDigit_zeros⟩,
      h.nonzero⟩
  exact hbefore.isWhole

/-- The digits after the point, or a zero. -/
theorem isDigits_after (n : Nat) (h : IsMantissa c tail) :
    IsDigits (if ((c :: tail).drop n).isEmpty = true then "0"
      else String.ofList ((c :: tail).drop n)).toList := by
  split
  next => exact isWhole_zero.toIsDigits
  next hsome =>
    rw [String.toList_ofList]
    exact ⟨fun hnil => hsome (List.isEmpty_iff.2 hnil), fun x hx => h.all x (List.mem_of_mem_drop hx)⟩

/-- A decimal fraction is written with a fraction or an exponent. -/
theorem isNumeral_write (d : Decimal) : IsNumeral (d.write .plain).toList := by
  have hsign : (if d.negative = true then "-" else "").toList =
      if d.negative = true then ['-'] else [] := by
    cases d.negative <;> rfl
  unfold Decimal.write Decimal.digitsOf
  dsimp only
  split
  next =>
    rw [String.toList_append, hsign]
    exact isNumeral_places _ isWhole_zero isWhole_zero.toIsDigits
  next hdigits =>
    obtain ⟨c, tail, htrim, h⟩ := trimZeros_toDigits hdigits
    rw [htrim]
    split
    next =>
      split
      next =>
        rw [String.toList_append, String.toList_append, hsign, List.append_assoc,
          String.toList_ofList (l := List.replicate _ '0' ++ c :: tail)]
        exact isNumeral_places _ isWhole_zero (isDigits_below _ h)
      next =>
        rw [String.toList_append, String.toList_append, String.toList_append, hsign, String.toList_ofList,
          List.append_assoc, List.append_assoc]
        exact isNumeral_places _ (isWhole_before _ _ h) (isDigits_after _ h)
    next =>
      obtain ⟨hexponent, hsome⟩ :=
        isExponent_exponentText (d.exponent + ((Nat.toDigits 10 d.digits).length : Int) - 1)
      rw [String.toList_append, String.toList_append, hsign, List.append_assoc]
      cases tail with
      | nil =>
        change IsNumeral (_ ++ ((String.ofList [c]).toList ++ _))
        rw [String.toList_ofList]
        exact .intro d.negative h.isWhole .none hexponent (.inr hsome)
      | cons next others =>
        change IsNumeral (_ ++ ((String.ofList (c :: '.' :: next :: others)).toList ++ _))
        have hwhole : IsWhole [c] := isWhole_before 0 0 h
        rw [String.toList_ofList]
        exact .intro d.negative hwhole (.places ⟨List.cons_ne_nil _ _, h.rest⟩) hexponent (.inr hsome)

/-- What is written for a finite number has a fraction or an exponent. -/
theorem isNumeral_text (negative : Bool) (units : Nat) :
    IsNumeral (Binary64.finite negative units).text.toList := by
  cases units with
  | zero =>
    have hnumeral := isNumeral_places negative isWhole_zero isWhole_zero.toIsDigits
    cases negative <;> exact hnumeral
  | succ units =>
    rw [Binary64.text]
    · exact isNumeral_write _
    · exact Nat.succ_ne_zero units

/-! ## Where a number begins -/

/-- The characters that a number begins with. -/
inductive Begins : List Char → Prop
  | digit {c : Char} {cs : List Char} : c.isDigit = true → Begins (c :: cs)
  | minus {c : Char} {cs : List Char} : c.isDigit = true → Begins ('-' :: c :: cs)

theorem IsDigits.begins (h : IsDigits cs) (negative : Bool) (rest : List Char) :
    Begins ((if negative then ['-'] else []) ++ (cs ++ rest)) := by
  obtain ⟨c, tail, rfl⟩ := List.exists_cons_of_ne_nil h.ne_nil
  have hc := h.all c (List.mem_cons_self ..)
  cases negative with
  | true => exact .minus hc
  | false => exact .digit hc

theorem begins_toString (i : Int) (rest : List Char) : Begins ((toString i).toList ++ rest) := by
  rw [Number.toList_toString, List.append_assoc]
  exact (isDigits_toDigits i.natAbs).begins _ rest

theorem IsNumeral.begins (h : IsNumeral cs) (rest : List Char) : Begins (cs ++ rest) := by
  cases h with
  | intro negative hwhole hfraction hexponent hsome =>
    rw [List.append_assoc, List.append_assoc]
    exact hwhole.begins negative _

/-- No word stands where a number begins. -/
theorem word?_none (h : Begins cs) {w : String} {e f : Char} {es : List Char}
    (hw : w.toList = e :: f :: es) (he : e.isDigit = false) (hf : e = '-' → f.isDigit = false) :
    Place.word? ⟨off, cs, []⟩ w = none := by
  rw [Place.word?, hw, if_neg]
  intro hprefix
  obtain ⟨tail, htail⟩ := List.isPrefixOf_iff_prefix.1 hprefix
  cases h with
  | digit hc => rw [← List.head_eq_of_cons_eq htail, he] at hc; exact nomatch hc
  | minus hc =>
    obtain ⟨rfl, hsecond⟩ := List.cons_eq_cons.1 htail
    rw [← List.head_eq_of_cons_eq hsecond, hf rfl] at hc
    exact nomatch hc

/-- Where a number begins, a number is read. -/
theorem readValue_number {depth fuel : Nat} (h : Begins cs) :
    readValue depth (fuel + 1) ⟨off, cs, []⟩ = readNumber ⟨off, cs, []⟩ := by
  have hnull := @word?_none off cs h "null" _ _ _ rfl (by decide) (by decide)
  have htrue := @word?_none off cs h "true" _ _ _ rfl (by decide) (by decide)
  have hfalse := @word?_none off cs h "false" _ _ _ rfl (by decide) (by decide)
  have hnan := @word?_none off cs h "NaN" _ _ _ rfl (by decide) (by decide)
  have hinfinity := @word?_none off cs h "Infinity" _ _ _ rfl (by decide) (by decide)
  have hminus := @word?_none off cs h "-Infinity" _ _ _ rfl (by decide) (by decide)
  obtain ⟨c, tail, rfl⟩ : ∃ c tail, cs = c :: tail := by
    cases h <;> exact ⟨_, _, rfl⟩
  have hfirst (e : Char) (he : e.isDigit = false ∧ e ≠ '-') : c ≠ e := by
    rintro rfl
    cases h with
    | digit hc => exact nomatch he.1.symm.trans hc
    | minus hc => exact he.2 rfl
  rw [readValue]
  dsimp only
  rw [if_neg (hfirst '"' (by decide)), if_neg (hfirst '\x7b' (by decide)), if_neg (hfirst '[' (by decide)),
    hnull, htrue, hfalse, hnan, hinfinity, hminus]

/-- What is written for a number that is no integer is read to its end. -/
theorem readValue_numberText {depth fuel : Nat} (x : Binary64) (hrest : GoesOn rest) : ∃ y off',
    readValue depth (fuel + 1) ⟨off, (numberText x).toList ++ rest, []⟩ =
      .ok (.real y, ⟨off', rest, []⟩) := by
  cases x with
  | nan => exact ⟨.nan, off + 3, rfl⟩
  | infinite negative =>
    cases negative with
    | true => exact ⟨.infinite true, off + 9, rfl⟩
    | false => exact ⟨.infinite false, off + 8, rfl⟩
  | finite negative units =>
    have hnumeral := isNumeral_text negative units
    rw [numberText, readValue_number (hnumeral.begins rest)]
    · exact readNumber_numeral hnumeral hrest
    · exact nofun
    · exact nofun

end SchoolCatalog.Json
