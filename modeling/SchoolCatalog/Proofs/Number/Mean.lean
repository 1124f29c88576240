import SchoolCatalog.Number.Summation
import SchoolCatalog.Proofs.Number.Rounding

/-!
# Means of whole numbers

The running sum of small positive whole numbers stays within range as long as their exact sum is below
`2 ^ 67`: it is kept in at most two parts, of which the lower one is what rounding to 53 digits leaves
over. So such numbers have a mean, and it is a finite number that rounding keeps as it is.

Results:
1. `roundSigned_close`: rounding a whole number below `2 ^ 68` gives a whole number close by.
2. `addPart_parts`: one step of the running sum keeps its shape.
3. `mean_of_small`: the mean of small whole numbers exists, is finite and needs no rounding.
-/

namespace SchoolCatalog

namespace Binary64

/-! ## Rounding shifted numbers -/

theorem spacing_shifted {m : Nat} (k : Nat) (h : 2 ^ 53 < m) :
    spacing (m * 2 ^ k) = 2 ^ (m.log2 - 52) * 2 ^ k := by
  have hm : m ≠ 0 := by omega
  have hlog : 53 ≤ m.log2 := (Nat.le_log2 hm).2 (Nat.le_of_lt h)
  have hmul : (m * 2 ^ k).log2 = m.log2 + k := by
    rw [Nat.log2_eq_iff (Nat.mul_ne_zero hm (Nat.ne_of_gt (Nat.two_pow_pos _)))]
    constructor
    · rw [Nat.pow_add]
      exact Nat.mul_le_mul_right _ (Nat.log2_self_le hm)
    · rw [show m.log2 + k + 1 = m.log2 + 1 + k by omega, Nat.pow_add 2 (m.log2 + 1)]
      exact Nat.mul_lt_mul_of_pos_right Nat.lt_log2_self (Nat.two_pow_pos _)
  rw [spacing_eq, hmul, ← Nat.pow_add]
  congr 1
  omega

/-- Rounding keeps zeros at the end, moves a number below `2 ^ 68` by no more than `2 ^ 14`, and does
not move one of 53 digits. -/
theorem roundUnits_close {m : Nat} (k : Nat) (h : m < 2 ^ 68) :
    ∃ n, roundUnits (m * 2 ^ k) 1 = n * 2 ^ k ∧ n ≤ m + 2 ^ 14 ∧ m ≤ n + 2 ^ 14 ∧
      (m ≤ 2 ^ 53 → n = m) := by
  by_cases hsmall : m ≤ 2 ^ 53
  · exact ⟨m, roundUnits_of_shifted k hsmall, by omega, by omega, fun _ => rfl⟩
  have hspacing := spacing_shifted k (Nat.not_le.1 hsmall)
  have herror := roundUnits_error (m * 2 ^ k)
  have hround : roundUnits (m * 2 ^ k) 1 =
      nearest (m * 2 ^ k) (spacing (m * 2 ^ k)) * 2 ^ (m.log2 - 52) * 2 ^ k := by
    rw [Nat.mul_assoc, ← hspacing]
    simp [roundUnits]
  rw [hround, hspacing] at herror
  rw [hround, hspacing]
  generalize nearest (m * 2 ^ k) (2 ^ (m.log2 - 52) * 2 ^ k) * 2 ^ (m.log2 - 52) = n at herror ⊢
  have hstep : 2 ^ (m.log2 - 52) ≤ 2 ^ 15 := by
    have := (Nat.log2_lt (by omega)).2 h
    exact Nat.pow_le_pow_right (by decide) (by omega)
  generalize 2 ^ (m.log2 - 52) = step at herror hstep
  -- half the spacing moves the number by no more, as both end in the same zeros
  have hle : 2 * n ≤ 2 * m + step := by
    refine Nat.le_of_mul_le_mul_right ?_ (Nat.two_pow_pos k)
    rw [Nat.add_mul, Nat.mul_assoc, Nat.mul_assoc]
    exact herror.1
  have hge : 2 * m ≤ 2 * n + step := by
    refine Nat.le_of_mul_le_mul_right ?_ (Nat.two_pow_pos k)
    rw [Nat.add_mul, Nat.mul_assoc, Nat.mul_assoc]
    exact herror.2
  exact ⟨n, rfl, by omega, by omega, fun hm => absurd hm hsmall⟩

theorem shifted_lt {m k : Nat} (h : m < 2 ^ 69) : m * 2 ^ k < 2 ^ (1024 + k) := by
  have hlt : m * 2 ^ k < 2 ^ 69 * 2 ^ k := Nat.mul_lt_mul_of_pos_right h (Nat.two_pow_pos _)
  refine Nat.lt_of_lt_of_le hlt ?_
  rw [← Nat.pow_add]
  exact Nat.pow_le_pow_right (by decide) (by omega)

theorem ofInt_of_small {i : Int} (hpos : 0 ≤ i) (hmost : i ≤ 2 ^ 53) :
    ofInt i = finite false (i.natAbs * one) := by
  obtain ⟨k, hone, hlimit⟩ := one_shape
  have hround : roundUnits (i.natAbs * one) 1 = i.natAbs * one := by
    rw [hone]
    exact roundUnits_of_shifted k (by clear hone hlimit; omega)
  have hfits : i.natAbs * one < limit := by
    rw [hone, hlimit]
    exact shifted_lt (by clear hone hlimit; omega)
  have hsign : decide (i < 0) = false := decide_eq_false_iff_not.2 (Int.not_lt.2 hpos)
  rw [ofInt, ofRatio, hround, hsign, ofUnits, if_pos hfits]

end Binary64

namespace Number

open Binary64

variable {k : Nat}

theorem natAbs_shifted (n : Int) : (n * (2 ^ k : Nat)).natAbs = n.natAbs * 2 ^ k := by
  rw [Int.natAbs_mul, Int.natAbs_natCast]

theorem shift_ne_zero : ((2 ^ k : Nat) : Int) ≠ 0 :=
  Int.natCast_ne_zero.2 (Nat.ne_of_gt (Nat.two_pow_pos k))

/-- Rounding a signed number, with the bounds of `roundUnits_close`. -/
theorem roundSigned_close (k : Nat) {m : Int} (h : m.natAbs < 2 ^ 68) :
    ∃ n : Int, roundSigned (m * (2 ^ k : Nat)) = n * (2 ^ k : Nat) ∧ n ≤ m + 2 ^ 14 ∧
      m ≤ n + 2 ^ 14 ∧ (m.natAbs ≤ 2 ^ 53 → n = m) := by
  obtain ⟨n, hround, hle, hge, hexact⟩ := roundUnits_close k h
  unfold roundSigned
  rw [natAbs_shifted, hround]
  have hunit : 0 < ((2 ^ k : Nat) : Int) := Int.natCast_pos.2 (Nat.two_pow_pos k)
  by_cases hneg : m < 0
  · refine ⟨-n, ?_, by omega, by omega, fun hm => ?_⟩
    · rw [if_pos (Int.mul_neg_of_neg_of_pos hneg hunit), Int.neg_mul, Int.natCast_mul]
    · have := hexact hm
      omega
  · refine ⟨n, ?_, by omega, by omega, fun hm => ?_⟩
    · have hsign : ¬ m * ((2 ^ k : Nat) : Int) < 0 :=
        Int.not_lt.2 (Int.mul_nonneg (Int.not_lt.1 hneg) (Int.le_of_lt hunit))
      rw [if_neg hsign, Int.natCast_mul]
    · have := hexact hm
      omega

/-! ## The running sum -/

/-- How a running sum keeps a whole number of units of `2 ^ k`: in one part, or with a small remainder
below. -/
inductive Parts (k : Nat) : Int → List Int → Prop
  | none : Parts k 0 []
  | single {high : Int} : Parts k high [high * (2 ^ k : Nat)]
  | double {low high : Int} (small : low.natAbs ≤ 2 ^ 14) :
      Parts k (low + high) [low * (2 ^ k : Nat), high * (2 ^ k : Nat)]

theorem addUp_parts {total : Int} {parts : List Int} (h : Parts k total parts) :
    addUp parts = total * (2 ^ k : Nat) := by
  cases h <;> simp [addUp, Int.add_mul]

/-- Merging a number into a single part gives the rounded sum and what is left over. -/
theorem addPart_single (hlimit : limit = 2 ^ (1024 + k)) {carried part total : Int}
    (hsum : carried + part = total) (hpos : 0 < total) (hmost : total ≤ 2 ^ 67) :
    ∃ merged, addPart (carried * (2 ^ k : Nat)) [part * (2 ^ k : Nat)] = some merged ∧
      Parts k total merged := by
  obtain ⟨n, hround, hle, hge, hexact⟩ := roundSigned_close k (m := total) (by omega)
  have hwhole : carried * ((2 ^ k : Nat) : Int) + part * (2 ^ k : Nat) = total * (2 ^ k : Nat) := by
    rw [← hsum, Int.add_mul]
  have hlow : total * ((2 ^ k : Nat) : Int) - n * (2 ^ k : Nat) = (total - n) * (2 ^ k : Nat) := by
    rw [Int.sub_mul]
  have hfits : ¬ limit ≤ (n * ((2 ^ k : Nat) : Int)).natAbs := by
    rw [natAbs_shifted, hlimit]
    exact Nat.not_le.2 (shifted_lt (by omega))
  -- the rounded sum is a part only if it is not zero
  have hn : 0 < n := by
    by_cases hsmall : total.natAbs ≤ 2 ^ 53
    · have := hexact hsmall
      omega
    · omega
  have hne : n * ((2 ^ k : Nat) : Int) ≠ 0 := Int.mul_ne_zero (by omega) shift_ne_zero
  simp only [addPart, hwhole, hround, hlow, if_neg hfits, if_neg hne]
  by_cases hzero : (total - n) * ((2 ^ k : Nat) : Int) = 0
  · have hsame : n = total := by
      have := (Int.mul_eq_zero.1 hzero).resolve_right shift_ne_zero
      omega
    rw [if_pos hzero, hsame]
    exact ⟨_, rfl, .single⟩
  · rw [if_neg hzero]
    refine ⟨_, rfl, ?_⟩
    have hdouble := @Parts.double k (total - n) n (by omega)
    rwa [Int.sub_add_cancel] at hdouble

/-- Adding a small number keeps the shape of a running sum. -/
theorem addPart_parts (hlimit : limit = 2 ^ (1024 + k)) {x total : Int} {parts : List Int}
    (h : Parts k total parts) (hx : 0 < x ∧ x ≤ 10) (htotal : 0 ≤ total)
    (hmost : x + total ≤ 2 ^ 67) :
    ∃ merged, addPart (x * (2 ^ k : Nat)) parts = some merged ∧ Parts k (x + total) merged := by
  cases h with
  | none =>
    have hne : x * ((2 ^ k : Nat) : Int) ≠ 0 := Int.mul_ne_zero (by omega) shift_ne_zero
    refine ⟨[x * (2 ^ k : Nat)], by rw [addPart, if_neg hne], ?_⟩
    rw [Int.add_zero]
    exact .single
  | single => exact addPart_single hlimit rfl (by omega) hmost
  | @double low high small =>
    -- the new number and the remainder add up without rounding, and the sum goes on
    obtain ⟨n, hround, _, _, hexact⟩ := roundSigned_close k (m := x + low) (by omega)
    obtain rfl := hexact (by omega)
    have hwhole : x * ((2 ^ k : Nat) : Int) + low * (2 ^ k : Nat) = (x + low) * (2 ^ k : Nat) := by
      rw [Int.add_mul]
    have hfits : ¬ limit ≤ ((x + low) * ((2 ^ k : Nat) : Int)).natAbs := by
      rw [natAbs_shifted, hlimit]
      exact Nat.not_le.2 (shifted_lt (by omega))
    rw [addPart]
    simp only [hwhole, hround, if_neg hfits, Int.sub_self, if_pos]
    exact addPart_single hlimit (by omega) (by omega) hmost

theorem add_small {s : RunningSum} {x : Int} (h : 0 < x ∧ x ≤ 10) :
    s.add (.ofInt x) = (addPart (x * one) s.parts).map fun parts => { s with parts } := by
  have hcast : ((x.natAbs * one : Nat) : Int) = x * one := by
    rw [Int.natCast_mul, Int.natAbs_of_nonneg (Int.le_of_lt h.1)]
  rw [ofInt_of_small (Int.le_of_lt h.1) (Int.le_trans h.2 (by decide))]
  simp only [RunningSum.add, hcast, Bool.false_eq_true, if_false]

/-- The running sum of small numbers stays within range and is exact. -/
theorem runningSum_small (hone : one = 2 ^ k) (hlimit : limit = 2 ^ (1024 + k)) {xs : List Int}
    {total : Int} {parts : List Int} (hxs : ∀ x ∈ xs, 0 < x ∧ x ≤ 10)
    (hparts : Parts k total parts) (htotal : 0 ≤ total)
    (hmost : total + 10 * xs.length ≤ 2 ^ 67) :
    ∃ sum merged, (xs.map Binary64.ofInt).foldlM RunningSum.add { parts } =
        some { parts := merged } ∧
      Parts k sum merged ∧ 0 ≤ sum ∧ sum ≤ 2 ^ 67 := by
  induction xs generalizing total parts with
  | nil => exact ⟨total, parts, rfl, hparts, htotal, by simpa using hmost⟩
  | cons x xs ih =>
    have hx := hxs x (List.mem_cons_self ..)
    have hrest : x + total + 10 * (xs.length : Int) ≤ 2 ^ 67 := by
      clear hone hlimit
      rw [List.length_cons] at hmost
      omega
    have hnext : 0 ≤ x + total ∧ x + total ≤ 2 ^ 67 := by
      clear hone hlimit
      omega
    obtain ⟨merged, hadd, hmerged⟩ := addPart_parts hlimit hparts hx htotal hnext.2
    obtain ⟨sum, final, hfold, hfinal, hbounds⟩ :=
      ih (fun y hy => hxs y (List.mem_cons_of_mem x hy)) hmerged hnext.1 hrest
    refine ⟨sum, final, ?_, hfinal, hbounds⟩
    rw [List.map_cons, List.foldlM_cons, add_small hx, hone, hadd]
    exact hfold

/-! ## The mean -/

/-- The mean of small whole numbers exists, is finite and needs no rounding. -/
theorem mean_of_small {xs : List Int} (hne : xs ≠ []) (hxs : ∀ x ∈ xs, 0 < x ∧ x ≤ 10)
    (hlength : xs.length < 2 ^ 63) :
    ∃ mean, Number.mean (xs.map Binary64.ofInt) = .ok (some mean) ∧ Rounded mean := by
  obtain ⟨k, hone, hlimit⟩ := one_shape
  have hlong : (0 : Int) + 10 * xs.length ≤ 2 ^ 67 := by
    clear hone hlimit
    omega
  obtain ⟨total, parts, hfold, hparts, hge, hle⟩ :=
    runningSum_small hone hlimit hxs .none (Int.le_refl 0) hlong
  have hempty : (xs.map Binary64.ofInt).isEmpty = false := by
    cases xs with
    | nil => exact absurd rfl hne
    | cons => rfl
  have hbelow : total.natAbs < 2 ^ 68 := by
    clear hone hlimit
    omega
  obtain ⟨n, hround, hn, _, _⟩ := roundUnits_close k hbelow
  have hfits : n * 2 ^ k < limit := by
    rw [hlimit]
    exact shifted_lt (by clear hone hlimit; omega)
  have hsign : decide (total * ((2 ^ k : Nat) : Int) < 0) = false :=
    decide_eq_false_iff_not.2 (Int.not_lt.2 (Int.mul_nonneg hge (Int.natCast_nonneg _)))
  have hsum : sum (xs.map Binary64.ofInt) = .ok (.finite false (n * 2 ^ k)) := by
    have hvalue : RunningSum.value { parts } = .ok (.ofSignedUnits (addUp parts)) := rfl
    rw [sum, runningSum?, hfold]
    simp only [hvalue, addUp_parts hparts, ofSignedUnits, natAbs_shifted, hround, hsign, ofUnits,
      if_pos hfits]
  have hbound : roundUnits (n * 2 ^ k) xs.length < limit := by
    have hquotient : n * 2 ^ k / xs.length < 2 ^ (69 + k) := by
      refine Nat.lt_of_le_of_lt (Nat.div_le_self _ _) ?_
      rw [Nat.pow_add]
      exact Nat.mul_lt_mul_of_pos_right (by clear hone hlimit; omega) (Nat.two_pow_pos k)
    rw [hlimit]
    exact Nat.lt_of_lt_of_le (roundUnits_lt hquotient)
      (Nat.pow_le_pow_right (by decide) (by clear hone hlimit; omega))
  refine ⟨.finite false (roundUnits (n * 2 ^ k) xs.length), ?_, .intro (roundUnits_idem _ _) hbound⟩
  rw [mean, hempty, hsum, List.length_map]
  show Except.ok (some (ofUnits false (roundUnits (n * 2 ^ k) xs.length))) = _
  rw [ofUnits, if_pos hbound]

end Number
end SchoolCatalog
