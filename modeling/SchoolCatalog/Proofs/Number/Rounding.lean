import Mathlib
import SchoolCatalog.Number.Binary64

/-!
# Rounding

What rounding to 53 binary digits does to a count of units: it keeps what has no more digits, so that
rounding again changes nothing, and it moves any other count by at most half the distance between
its neighbours.

Results:
1. `roundUnits_idem`: a rounded count of units is kept as it is.
2. `roundUnits_of_shifted`: so is a count with 53 binary digits and any number of zeros behind them.
3. `roundUnits_error`: rounding moves a count of units by at most half a spacing.
-/

namespace SchoolCatalog.Binary64

/-- One is a power of two, and the limit is one far enough above it for every whole number of 64
bits. -/
theorem one_shape : ∃ k, one = 2 ^ k ∧ limit = 2 ^ (1024 + k) := by
  have ⟨k, hone, hlimit⟩ : ∃ k, one = Nat.pow 2 k ∧ limit = Nat.pow 2 (1024 + k) :=
    ⟨1074, rfl, rfl⟩
  exact ⟨k, hone.trans Nat.pow_eq, hlimit.trans Nat.pow_eq⟩

theorem one_pos : 0 < one := by
  obtain ⟨k, hone, _⟩ := one_shape
  rw [hone]
  exact Nat.two_pow_pos k

/-- A unit is far below one. -/
theorem two_pow_le_one : 2 ^ 67 ≤ one := by
  have ⟨k, hone, hk⟩ : ∃ k, one = Nat.pow 2 k ∧ 67 ≤ k := ⟨1074, rfl, by decide⟩
  rw [hone]
  exact Nat.pow_le_pow_right (by decide) hk

/-- A number that rounding keeps as it is, positive or zero. -/
inductive Rounded : Binary64 → Prop
  | intro {u : Nat} (kept : roundUnits u 1 = u) (fits : u < limit) : Rounded (finite false u)

theorem Rounded.isNaN {x : Binary64} (h : Rounded x) : x.isNaN = false := by
  cases h
  rfl

/-! ## The nearest integer -/

theorem nearest_mul {den : Nat} (h : 0 < den) (k : Nat) : nearest (k * den) den = k := by
  have hq : k * den / den = k := Nat.mul_div_cancel k h
  have hr : k * den % den = 0 := Nat.mul_mod_left k den
  simp [nearest, hq, hr, h]

theorem nearest_cases (num den : Nat) :
    nearest num den = num / den ∧ 2 * (num % den) ≤ den ∨
      nearest num den = num / den + 1 ∧ den ≤ 2 * (num % den) := by
  unfold nearest
  dsimp only
  split
  · exact .inl ⟨rfl, by omega⟩
  · split
    · exact .inr ⟨rfl, by omega⟩
    · split
      · exact .inl ⟨rfl, by omega⟩
      · exact .inr ⟨rfl, by omega⟩

theorem nearest_le (num den : Nat) : nearest num den ≤ num / den + 1 := by
  rcases nearest_cases num den with ⟨h, _⟩ | ⟨h, _⟩ <;> omega

/-- The nearest multiple is at most half a step away. -/
theorem nearest_error (num : Nat) {den : Nat} (h : 0 < den) :
    2 * (nearest num den * den) ≤ 2 * num + den ∧ 2 * num ≤ 2 * (nearest num den * den) + den := by
  have hsplit : num / den * den + num % den = num := by
    rw [Nat.mul_comm]
    exact Nat.div_add_mod num den
  have hless : num % den < den := Nat.mod_lt num h
  rcases nearest_cases num den with ⟨hn, hr⟩ | ⟨hn, hr⟩
  · rw [hn]
    omega
  · rw [hn, Nat.add_mul, Nat.one_mul]
    omega

/-! ## Spacing -/

theorem spacing_eq (units : Nat) : spacing units = 2 ^ (units.log2 - 52) := rfl

theorem spacing_pos (units : Nat) : 0 < spacing units := Nat.two_pow_pos _

/-- A count of units that the spacing around it divides is kept as it is. -/
theorem roundUnits_of_dvd {u : Nat} (h : spacing u ∣ u) : roundUnits u 1 = u := by
  obtain ⟨k, hk⟩ := h
  have hform : roundUnits u 1 = nearest u (spacing u) * spacing u := by
    simp [roundUnits]
  have hmul : u = k * spacing u := by rw [Nat.mul_comm]; exact hk
  rw [hform]
  conv => lhs; arg 1; arg 1; rw [hmul]
  rw [nearest_mul (spacing_pos u), ← hmul]

/-- What has 53 binary digits and zeros behind them lies on the grid around it. -/
theorem spacing_dvd_shifted {m : Nat} (k : Nat) (h : m ≤ 2 ^ 53) :
    spacing (m * 2 ^ k) ∣ m * 2 ^ k := by
  rw [spacing_eq]
  by_cases hm : m = 0
  · simp [hm]
  by_cases htop : m = 2 ^ 53
  · have hlog : (m * 2 ^ k).log2 = 53 + k := by
      rw [htop, ← Nat.pow_add, Nat.log2_two_pow]
    rw [hlog, htop, ← Nat.pow_add]
    exact Nat.pow_dvd_pow 2 (by omega)
  · have hlt : m * 2 ^ k < 2 ^ (53 + k) := by
      rw [Nat.pow_add]
      exact Nat.mul_lt_mul_of_pos_right (by omega) (Nat.two_pow_pos k)
    have hpos : m * 2 ^ k ≠ 0 := Nat.mul_ne_zero hm (Nat.ne_of_gt (Nat.two_pow_pos k))
    have hlog := (Nat.log2_lt hpos).2 hlt
    exact Nat.dvd_mul_left_of_dvd (Nat.pow_dvd_pow 2 (by omega)) m

theorem roundUnits_of_shifted {m : Nat} (k : Nat) (h : m ≤ 2 ^ 53) :
    roundUnits (m * 2 ^ k) 1 = m * 2 ^ k :=
  roundUnits_of_dvd (spacing_dvd_shifted k h)

/-! ## Rounding quotients -/

/-- A rounded quotient has 53 binary digits and zeros behind them. -/
theorem roundUnits_shifted (num den : Nat) :
    ∃ m k, m ≤ 2 ^ 53 ∧ roundUnits num den = m * 2 ^ k := by
  refine ⟨nearest num (den * spacing (num / den)), (num / den).log2 - 52, ?_, rfl⟩
  have hq : num / (den * spacing (num / den)) < 2 ^ 53 := by
    rw [← Nat.div_div_eq_div_mul, spacing_eq]
    refine Nat.div_lt_of_lt_mul ?_
    rw [← Nat.pow_add]
    refine Nat.lt_of_lt_of_le Nat.lt_log2_self (Nat.pow_le_pow_right (by decide) (by omega))
  have := nearest_le num (den * spacing (num / den))
  omega

/-- Rounding a rounded count of units again changes nothing. -/
theorem roundUnits_idem (num den : Nat) :
    roundUnits (roundUnits num den) 1 = roundUnits num den := by
  obtain ⟨m, k, hm, hround⟩ := roundUnits_shifted num den
  rw [hround]
  exact roundUnits_of_shifted k hm

/-- Rounding moves a count of units by at most half the distance between its neighbours. -/
theorem roundUnits_error (u : Nat) :
    2 * roundUnits u 1 ≤ 2 * u + spacing u ∧ 2 * u ≤ 2 * roundUnits u 1 + spacing u := by
  have h := nearest_error u (spacing_pos u)
  simpa [roundUnits] using h

/-- A rounded quotient has at most one binary digit more than the quotient. -/
theorem roundUnits_lt {num den e : Nat} (h : num / den < 2 ^ e) :
    roundUnits num den < 2 ^ (e + 1) := by
  have hspacing : spacing (num / den) ≤ 2 ^ e := by
    by_cases hq : num / den = 0
    · rw [hq]
      exact Nat.one_le_two_pow
    · have := (Nat.log2_lt hq).2 h
      exact Nat.pow_le_pow_right (by decide) (by omega)
  have hround : roundUnits num den ≤ num / den + spacing (num / den) :=
    calc roundUnits num den
        ≤ (num / (den * spacing (num / den)) + 1) * spacing (num / den) :=
          Nat.mul_le_mul_right _ (nearest_le _ _)
      _ = num / den / spacing (num / den) * spacing (num / den) + spacing (num / den) := by
          rw [Nat.add_mul, Nat.one_mul, Nat.div_div_eq_div_mul]
      _ ≤ num / den + spacing (num / den) := Nat.add_le_add_right (Nat.div_mul_le_self _ _) _
  rw [Nat.pow_succ]
  omega

end SchoolCatalog.Binary64
