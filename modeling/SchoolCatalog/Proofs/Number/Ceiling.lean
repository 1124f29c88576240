import SchoolCatalog.Proofs.Number.Mean

/-!
# Rounding means up

The mean of whole numbers is rounded to a number, and a tenth of it is rounded once more before it is
rounded up to a whole number. A multiple of ten is a number itself, so neither rounding passes it. A mean
above a multiple of ten is so far above it that rounding does not reach it either: with a sum below
`2 ^ 53`, it lies more than half a spacing above, and the next number is a tenth of its spacing away from
the next tenth, which again is more than half a spacing there.

Results:
1. `roundUnits_le`, `le_roundUnits`: rounding does not pass a count of units that it keeps.
2. `lt_roundUnits`: from more than half a spacing above, it does not reach one.
3. `sum_whole`: whole numbers whose sum is below `2 ^ 53` add up without rounding.
4. `ceilToTen_mean_of_whole`: rounded up to a multiple of ten, their mean is the least such multiple that
   is not below it.
-/

namespace SchoolCatalog

namespace Binary64

/-! ## Rounding and order -/

variable {num den m u : Nat}

theorem nearest_le_of_le {t : Nat} (h : num ≤ t * den) : nearest num den ≤ t := by
  rcases Nat.eq_zero_or_pos den with rfl | hden
  · have hnum : num = 0 := Nat.le_zero.1 (by simpa using h)
    simp [hnum, nearest]
  have hsplit : num / den * den + num % den = num := by
    rw [Nat.mul_comm]
    exact Nat.div_add_mod num den
  have hless : num / den ≤ t := Nat.div_le_of_le_mul (by rwa [Nat.mul_comm])
  rcases nearest_cases num den with ⟨hn, _⟩ | ⟨hn, hr⟩
  · omega
  · -- it is rounded up only from a remainder, which keeps the quotient below
    have hne : num / den ≠ t := by
      intro heq
      rw [heq] at hsplit
      omega
    omega

theorem le_nearest {t : Nat} (hden : 0 < den) (h : t * den ≤ num) : t ≤ nearest num den := by
  have hquotient : t ≤ num / den := (Nat.le_div_iff_mul_le hden).2 h
  rcases nearest_cases num den with ⟨hn, _⟩ | ⟨hn, _⟩ <;> omega

theorem log2_le_log2 (h : m ≤ u) : m.log2 ≤ u.log2 := by
  rcases Nat.eq_zero_or_pos m with rfl | hm
  · exact Nat.zero_le _
  · exact (Nat.le_log2 (by omega)).2 (Nat.le_trans (Nat.log2_self_le (by omega)) h)

theorem spacing_dvd_spacing (h : m ≤ u) : spacing m ∣ spacing u :=
  Nat.pow_dvd_pow 2 (Nat.sub_le_sub_right (log2_le_log2 h) 52)

/-- A rounded quotient is kept by rounding. -/
theorem spacing_dvd_roundUnits (num den : Nat) :
    spacing (roundUnits num den) ∣ roundUnits num den := by
  obtain ⟨m, k, hm, hround⟩ := roundUnits_shifted num den
  rw [hround]
  exact spacing_dvd_shifted k hm

/-- Rounding from below does not pass a count of units that it keeps. -/
theorem roundUnits_le (hgrid : spacing m ∣ m) (h : num ≤ m * den) : roundUnits num den ≤ m := by
  have hquotient : num / den ≤ m := Nat.div_le_of_le_mul (by rwa [Nat.mul_comm])
  obtain ⟨t, ht⟩ := (spacing_dvd_spacing hquotient).trans hgrid
  have hsteps : num ≤ t * (den * spacing (num / den)) := by
    refine h.trans_eq ?_
    conv => lhs; rw [ht]
    ring
  calc roundUnits num den
      = nearest num (den * spacing (num / den)) * spacing (num / den) := rfl
    _ ≤ t * spacing (num / den) := Nat.mul_le_mul_right _ (nearest_le_of_le hsteps)
    _ = m := by rw [Nat.mul_comm, ← ht]

/-- Rounding from above does not pass a multiple of the spacing. -/
theorem le_roundUnits_of_dvd (hden : 0 < den) (hdvd : spacing (num / den) ∣ m) (h : m * den ≤ num) :
    m ≤ roundUnits num den := by
  obtain ⟨t, ht⟩ := hdvd
  have hsteps : t * (den * spacing (num / den)) ≤ num := by
    refine Eq.trans_le ?_ h
    conv => rhs; rw [ht]
    ring
  calc m = t * spacing (num / den) := by rw [Nat.mul_comm, ← ht]
    _ ≤ nearest num (den * spacing (num / den)) * spacing (num / den) :=
      Nat.mul_le_mul_right _ (le_nearest (Nat.mul_pos hden (spacing_pos _)) hsteps)

/-- The power of two below a quotient is a multiple of the spacing there, so rounding does not pass it. -/
theorem two_pow_log2_le_roundUnits (hden : 0 < den) (hquotient : num / den ≠ 0) :
    2 ^ (num / den).log2 ≤ roundUnits num den := by
  refine le_roundUnits_of_dvd hden (Nat.pow_dvd_pow 2 (Nat.sub_le _ 52)) ?_
  exact (Nat.le_div_iff_mul_le hden).1 (Nat.log2_self_le hquotient)

/-- A quotient has the spacing of a count of units below it, or that count is below the power of two
below the quotient. -/
theorem spacing_eq_or_lt (h : m ≤ u) : spacing u = spacing m ∨ u ≠ 0 ∧ m < 2 ^ u.log2 := by
  by_cases hlog : u.log2 = m.log2
  · exact .inl (by rw [spacing_eq, hlog, spacing_eq])
  · have hless : m.log2 < u.log2 := by
      have := log2_le_log2 h
      omega
    have hpos : u ≠ 0 := by
      rintro rfl
      exact absurd hless (Nat.not_lt_zero _)
    exact .inr ⟨hpos, Nat.lt_of_lt_of_le Nat.lt_log2_self (Nat.pow_le_pow_right (by decide) hless)⟩

/-- Rounding from above does not pass a count of units that it keeps. -/
theorem le_roundUnits (hgrid : spacing m ∣ m) (hden : 0 < den) (h : m * den ≤ num) :
    m ≤ roundUnits num den := by
  rcases spacing_eq_or_lt ((Nat.le_div_iff_mul_le hden).2 h) with hsame | ⟨hpos, hless⟩
  · exact le_roundUnits_of_dvd hden (hsame ▸ hgrid) h
  · exact Nat.le_trans (Nat.le_of_lt hless) (two_pow_log2_le_roundUnits hden hpos)

/-- From more than half a spacing above a count of units, rounding does not reach it. -/
theorem lt_roundUnits (hden : 0 < den) (hgap : 2 * (m * den) + spacing m * den < 2 * num) :
    m < roundUnits num den := by
  have hquotient : m ≤ num / den := (Nat.le_div_iff_mul_le hden).2 (by omega)
  rcases spacing_eq_or_lt hquotient with hsame | ⟨hpos, hless⟩
  · have herror := (nearest_error num (Nat.mul_pos hden (spacing_pos m))).2
    have hround : roundUnits num den * den =
        nearest num (den * spacing m) * (den * spacing m) := by
      rw [roundUnits, hsame]
      ring
    rw [← hround, Nat.mul_comm den] at herror
    exact Nat.lt_of_mul_lt_mul_right (a := den) (by omega)
  · exact Nat.lt_of_lt_of_le hless (two_pow_log2_le_roundUnits hden hpos)

/-- Of two counts of units that rounding keeps, the greater is a spacing above the other at least. -/
theorem add_spacing_le (hm : spacing m ∣ m) (hu : spacing u ∣ u) (h : m < u) : m + spacing m ≤ u := by
  have hdiff : spacing m ∣ u - m :=
    Nat.dvd_sub ((spacing_dvd_spacing (Nat.le_of_lt h)).trans hu) hm
  have := Nat.le_of_dvd (by omega) hdiff
  omega

theorem spacing_mul_le (h : 2 ^ 52 ≤ m) : spacing m * 2 ^ 52 ≤ m := by
  have hm : m ≠ 0 := by omega
  have hlog : 52 ≤ m.log2 := (Nat.le_log2 hm).2 h
  rw [spacing_eq, ← Nat.pow_add, Nat.sub_add_cancel hlog]
  exact Nat.log2_self_le hm

theorem lt_spacing_mul (m : Nat) : m < spacing m * 2 ^ 53 := by
  rw [spacing_eq, ← Nat.pow_add]
  exact Nat.lt_of_lt_of_le Nat.lt_log2_self (Nat.pow_le_pow_right (by decide) (by omega))

end Binary64

namespace Number

open Binary64

/-! ## Sums of whole numbers -/

/-- How a running sum keeps a whole number that needs no rounding. -/
def wholeParts (total : Nat) : List Int := if total = 0 then [] else [((total * one : Nat) : Int)]

theorem addUp_wholeParts (total : Nat) : addUp (wholeParts total) = (total * one : Nat) := by
  unfold wholeParts
  split
  next hzero =>
    rw [hzero, Nat.zero_mul]
    rfl
  next => rw [addUp, addUp, Int.add_zero]

theorem natCast_mul_one_eq_zero {t : Nat} : ((t * one : Nat) : Int) = 0 ↔ t = 0 := by
  rw [Int.natCast_eq_zero, Nat.mul_eq_zero]
  exact or_iff_left Binary64.one_pos.ne'

theorem roundSigned_whole {t : Nat} (h : t ≤ 2 ^ 53) :
    roundSigned ((t * one : Nat) : Int) = (t * one : Nat) := by
  obtain ⟨k, hone, _⟩ := one_shape
  have hsign : ¬ ((t * one : Nat) : Int) < 0 := Int.not_lt.2 (Int.natCast_nonneg _)
  rw [roundSigned, if_neg hsign, Int.natAbs_natCast, hone, roundUnits_of_shifted k h]

theorem whole_lt_limit {t : Nat} (h : t ≤ 2 ^ 53) : t * one < limit := by
  obtain ⟨k, hone, hlimit⟩ := one_shape
  rw [hone, hlimit]
  exact shifted_lt (Nat.lt_of_le_of_lt h (by decide))

/-- Adding a whole number to a sum that needs no rounding gives one that needs none. -/
theorem addPart_whole {t total : Nat} (h : t + total ≤ 2 ^ 53) :
    addPart ((t * one : Nat) : Int) (wholeParts total) = some (wholeParts (t + total)) := by
  by_cases hzero : total = 0
  · subst hzero
    rw [wholeParts, if_pos rfl, Nat.add_zero]
    simp only [addPart, natCast_mul_one_eq_zero, wholeParts]
  · have hsum : ((t * one : Nat) : Int) + ((total * one : Nat) : Int) = ((t + total) * one : Nat) := by
      rw [← Int.natCast_add, ← Nat.add_mul]
    have hfits : ¬ limit ≤ (t + total) * one := Nat.not_le.2 (whole_lt_limit h)
    have hne : t + total ≠ 0 := by omega
    rw [wholeParts, if_neg hzero, addPart, hsum, roundSigned_whole h]
    simp only [Int.natAbs_natCast, if_neg hfits, Int.sub_self, if_pos, addPart,
      natCast_mul_one_eq_zero, wholeParts, if_neg hne]

theorem add_whole {t total : Nat} (h : t + total ≤ 2 ^ 53) :
    RunningSum.add { parts := wholeParts total } (.ofInt t) =
      some { parts := wholeParts (t + total) } := by
  have ht : ((t : Nat) : Int) ≤ 2 ^ 53 := by exact_mod_cast Nat.le_trans (Nat.le_add_right t total) h
  rw [ofInt_of_small (Int.natCast_nonneg t) ht, Int.natAbs_natCast]
  simp only [RunningSum.add, Bool.false_eq_true, if_false, addPart_whole h, Option.map_some]

theorem runningSum_whole {ts : List Nat} {total : Nat} (h : total + ts.sum ≤ 2 ^ 53) :
    (ts.map fun t : Nat => Binary64.ofInt t).foldlM RunningSum.add { parts := wholeParts total } =
      some { parts := wholeParts (total + ts.sum) } := by
  induction ts generalizing total with
  | nil => rfl
  | cons t ts ih =>
    rw [List.sum_cons] at h
    have hnext : t + total ≤ 2 ^ 53 := by omega
    have hrest : t + total + ts.sum ≤ 2 ^ 53 := by omega
    rw [List.map_cons, List.foldlM_cons, add_whole hnext]
    refine (ih hrest).trans ?_
    rw [List.sum_cons, show t + total + ts.sum = total + (t + ts.sum) by omega]

/-- Whole numbers whose sum is at most `2 ^ 53` add up without rounding. -/
theorem sum_whole {ts : List Nat} (h : ts.sum ≤ 2 ^ 53) :
    sum (ts.map fun t : Nat => Binary64.ofInt t) = .ok (.finite false (ts.sum * one)) := by
  obtain ⟨k, hone, _⟩ := one_shape
  have hrunning : (ts.map fun t : Nat => Binary64.ofInt t).foldlM RunningSum.add
      { parts := wholeParts 0 } = some { parts := wholeParts (0 + ts.sum) } :=
    runningSum_whole (by rwa [Nat.zero_add])
  rw [Nat.zero_add] at hrunning
  replace hrunning : runningSum? (ts.map fun t : Nat => Binary64.ofInt t) =
      some { parts := wholeParts ts.sum } := hrunning
  have hround : roundUnits (ts.sum * one) 1 = ts.sum * one := by
    rw [hone]
    exact roundUnits_of_shifted k h
  have hsign : decide (((ts.sum * one : Nat) : Int) < 0) = false :=
    decide_eq_false_iff_not.2 (Int.not_lt.2 (Int.natCast_nonneg _))
  have hvalue : RunningSum.value { parts := wholeParts ts.sum } =
      .ok (.ofSignedUnits (addUp (wholeParts ts.sum))) := rfl
  rw [sum, hrunning]
  simp only [hvalue, addUp_wholeParts, ofSignedUnits, Int.natAbs_natCast, hround, hsign, ofUnits,
    if_pos (whole_lt_limit h)]

/-! ## A tenth of the mean -/

variable {total n c g : Nat}

theorem spacing_dvd_whole (h : c ≤ 2 ^ 53) : spacing (c * one) ∣ c * one := by
  obtain ⟨k, hone, _⟩ := one_shape
  rw [hone]
  exact spacing_dvd_shifted k h

/-- Ten times a whole number has one binary zero more at the end. -/
theorem spacing_dvd_tens (h : 5 * c ≤ 2 ^ 53) : spacing (c * one * 10) ∣ c * one * 10 := by
  obtain ⟨k, hone, _⟩ := one_shape
  have htens : c * one * 10 = 5 * c * 2 ^ (k + 1) := by
    rw [hone]
    ring
  rw [htens]
  exact spacing_dvd_shifted (k + 1) h

/-- A tenth of a mean that is at most `10 * c` is rounded to at most `c`. -/
theorem tenth_le (hc : 5 * c ≤ 2 ^ 53) (h : total ≤ 10 * n * c) :
    roundUnits (roundUnits (total * one) n) 10 ≤ c * one := by
  have hmean : roundUnits (total * one) n ≤ c * one * 10 := by
    refine roundUnits_le (spacing_dvd_tens hc) ?_
    calc total * one ≤ 10 * n * c * one := Nat.mul_le_mul_right one h
      _ = c * one * 10 * n := by ring
  exact roundUnits_le (spacing_dvd_whole (by omega)) hmean

/-- A mean above `10 * g` is a spacing above it at least, once it is rounded. -/
theorem add_spacing_le_mean (hg : 0 < g) (hn : 0 < n) (htotal : total < 2 ^ 53)
    (h : 10 * n * g < total) :
    g * one * 10 + spacing (g * one * 10) ≤ roundUnits (total * one) n := by
  have hmost : 5 * g ≤ 2 ^ 53 := by
    have : 10 * g ≤ 10 * n * g := Nat.mul_le_mul_right g (Nat.le_mul_of_pos_right 10 hn)
    omega
  have hlarge : 2 ^ 52 ≤ g * one * 10 := by
    have : one ≤ g * one := Nat.le_mul_of_pos_left one hg
    have := two_pow_le_one
    omega
  -- the exact mean is above by one part in `n`, which is more than half a spacing
  have hstep : 10 * n * g * one + one ≤ total * one := by
    rw [← Nat.succ_mul]
    exact Nat.mul_le_mul_right one h
  have hshift : g * one * 10 * n = 10 * n * g * one := by ring
  have hspacing : spacing (g * one * 10) * n < 2 * one := by
    refine Nat.lt_of_mul_lt_mul_right (a := 2 ^ 52) ?_
    calc spacing (g * one * 10) * n * 2 ^ 52
        = spacing (g * one * 10) * 2 ^ 52 * n := by ring
      _ ≤ g * one * 10 * n := Nat.mul_le_mul_right n (spacing_mul_le hlarge)
      _ = 10 * n * g * one := hshift
      _ < total * one := Nat.mul_lt_mul_of_pos_right h Binary64.one_pos
      _ ≤ 2 ^ 53 * one := Nat.mul_le_mul_right one (Nat.le_of_lt htotal)
      _ = 2 * one * 2 ^ 52 := by ring
  refine add_spacing_le (spacing_dvd_tens hmost) (spacing_dvd_roundUnits _ _) ?_
  refine lt_roundUnits hn ?_
  omega

/-- A tenth of a mean that is above `10 * g` is rounded to above `g`. -/
theorem lt_tenth (hn : 0 < n) (hlength : n < 2 ^ 63) (htotal : total < 2 ^ 53)
    (h : 10 * n * g < total) :
    g * one < roundUnits (roundUnits (total * one) n) 10 := by
  rcases Nat.eq_zero_or_pos g with rfl | hg
  · -- a positive mean of so few numbers is ten units at least
    have hmean : 10 ≤ roundUnits (total * one) n := by
      refine le_roundUnits (by decide) hn ?_
      have hpos : one ≤ total * one := Nat.le_mul_of_pos_left one (by omega)
      have := two_pow_le_one
      omega
    have htenth : 1 ≤ roundUnits (roundUnits (total * one) n) 10 :=
      le_roundUnits (by decide) (by decide) (by omega)
    omega
  · refine lt_roundUnits (by decide) ?_
    have hmean := add_spacing_le_mean hg hn htotal h
    have hspacing : spacing (g * one) * 10 < 2 * spacing (g * one * 10) := by
      refine Nat.lt_of_mul_lt_mul_right (a := 2 ^ 52) ?_
      have hlarge : 2 ^ 52 ≤ g * one := by
        have : one ≤ g * one := Nat.le_mul_of_pos_left one hg
        have := two_pow_le_one
        omega
      calc spacing (g * one) * 10 * 2 ^ 52
          = spacing (g * one) * 2 ^ 52 * 10 := by ring
        _ ≤ g * one * 10 := Nat.mul_le_mul_right 10 (spacing_mul_le hlarge)
        _ < spacing (g * one * 10) * 2 ^ 53 := lt_spacing_mul _
        _ = 2 * spacing (g * one * 10) * 2 ^ 52 := by ring
    omega

/-- The rounded tenth of the rounded mean has the ceiling that a tenth of the exact mean has. -/
theorem ceiling_tenth (hn : 0 < n) (hlength : n < 2 ^ 63) (htotal : total < 2 ^ 53) :
    roundUnits (roundUnits (total * one) n) 10 ⌈/⌉ one = total ⌈/⌉ (10 * n) := by
  have hten : 0 < 10 * n := by omega
  have hcount : 5 * (total ⌈/⌉ (10 * n)) ≤ 2 ^ 53 := by
    have hmost : total ⌈/⌉ (10 * n) ≤ 2 ^ 50 := by
      refine (ceilDiv_le_iff_le_mul hten).2 ?_
      omega
    omega
  apply Nat.le_antisymm
  · refine (ceilDiv_le_iff_le_mul Binary64.one_pos).2 ?_
    exact (tenth_le hcount (le_smul_ceilDiv hten)).trans_eq (Nat.mul_comm _ one)
  · refine (ceilDiv_le_iff_le_mul hten).2 ?_
    by_contra hless
    have habove := lt_tenth hn hlength htotal (Nat.not_le.1 hless)
    have hbelow := le_smul_ceilDiv (b := roundUnits (roundUnits (total * one) n) 10) Binary64.one_pos
    rw [smul_eq_mul, Nat.mul_comm one] at hbelow
    omega

theorem mean_whole {ts : List Nat} (hne : ts ≠ []) (htotal : ts.sum < 2 ^ 53) :
    mean (ts.map fun t : Nat => Binary64.ofInt t) =
      .ok (some (.finite false (roundUnits (ts.sum * one) ts.length))) := by
  obtain ⟨k, hone, hlimit⟩ := one_shape
  have hempty : (ts.map fun t : Nat => Binary64.ofInt t).isEmpty = false := by
    cases ts with
    | nil => exact absurd rfl hne
    | cons => rfl
  have hbound : roundUnits (ts.sum * one) ts.length < limit := by
    have hquotient : ts.sum * one / ts.length < 2 ^ (53 + k) := by
      refine Nat.lt_of_le_of_lt (Nat.div_le_self _ _) ?_
      rw [hone, Nat.pow_add]
      exact Nat.mul_lt_mul_of_pos_right htotal (Nat.two_pow_pos k)
    rw [hlimit]
    exact Nat.lt_of_lt_of_le (roundUnits_lt hquotient)
      (Nat.pow_le_pow_right (by decide) (by clear hone hlimit; omega))
  rw [mean, hempty, sum_whole (Nat.le_of_lt htotal), List.length_map]
  show Except.ok (some (ofUnits false (roundUnits (ts.sum * one) ts.length))) = _
  rw [ofUnits, if_pos hbound]

/-- A finite number is rounded up to ten times the ceiling of its rounded tenth. -/
theorem ceilToTen_finite {u : Nat} (h : roundUnits u 10 < limit) :
    (Binary64.finite false u).ceilToTen = .ok ((roundUnits u 10 ⌈/⌉ one : Nat) * 10) := by
  have hten : (Binary64.finite false u).divNat 10 = .finite false (roundUnits u 10) := by
    rw [divNat, ofUnits, if_pos h]
  have hup : roundUnits u 10 ⌈/⌉ one = (roundUnits u 10 + (one - 1)) / one := by
    rw [Nat.ceilDiv_eq_add_pred_div, Nat.add_sub_assoc Binary64.one_pos]
  rw [ceilToTen, hten, hup]
  rfl

/-! ## Results -/

/-- Whole numbers with a sum below `2 ^ 53`, each stored as a number, have a mean, and it is rounded up
to the multiple of ten that the exact mean has: neither the rounding of the mean nor that of its tenth
reaches another multiple. A list that the service can hold is never as long as `2 ^ 63`. -/
theorem ceilToTen_mean_of_whole (tuitions : List Nat) (hne : tuitions ≠ [])
    (hlength : tuitions.length < 2 ^ 63) (htotal : tuitions.sum < 2 ^ 53) :
    ∃ average, mean (tuitions.map fun t : Nat => Binary64.ofInt t) = .ok (some average) ∧
      average.ceilToTen = .ok ((10 * (tuitions.sum ⌈/⌉ (10 * tuitions.length)) : Nat) : Int) := by
  have hn : 0 < tuitions.length := List.length_pos_iff.2 hne
  have hceiling := ceiling_tenth hn hlength htotal
  have hfits : roundUnits (roundUnits (tuitions.sum * one) tuitions.length) 10 < limit := by
    have hbelow := le_smul_ceilDiv
      (b := roundUnits (roundUnits (tuitions.sum * one) tuitions.length) 10) Binary64.one_pos
    rw [hceiling, smul_eq_mul, Nat.mul_comm one] at hbelow
    refine Nat.lt_of_le_of_lt hbelow (whole_lt_limit ?_)
    refine (ceilDiv_le_iff_le_mul (by omega)).2 ?_
    omega
  refine ⟨_, mean_whole hne htotal, ?_⟩
  rw [ceilToTen_finite hfits, hceiling, Int.natCast_mul, Int.mul_comm]
  rfl

/-- Three tuitions whose mean is no number and lies just above a multiple of ten. -/
theorem ceilToTen_mean_above_ten :
    ([3002399751580330, 3002399751580330, 3002399751580331] : List Nat).sum < 2 ^ 53 ∧
    ∃ average,
      mean ([3002399751580330, 3002399751580330, 3002399751580331].map
        fun t : Nat => Binary64.ofInt t) = .ok (some average) ∧
      average.ceilToTen = .ok 3002399751580340 :=
  ⟨by decide, ceilToTen_mean_of_whole [3002399751580330, 3002399751580330, 3002399751580331]
    (by decide) (by decide) (by decide)⟩

end Number
end SchoolCatalog
