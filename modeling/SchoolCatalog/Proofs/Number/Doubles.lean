import SchoolCatalog.Number.Reading
import SchoolCatalog.Proofs.Number.Rounding

/-!
# Numbers of the format

A finite number of the format is one that rounding keeps. Whatever is computed by rounding is such a
number, and so is whatever is read from digits: a text is rounded once, when it is read.

Results:
1. `isDouble_ofUnits`, `isDouble_toBinary64`: what rounding gives.
2. `IsDouble.of_nonnegative`: which of these numbers are not negative.
3. `isDouble_scanNumber`: what is read from a text.
-/

namespace SchoolCatalog

namespace Binary64

/-- A number of the format; one that is finite needs no rounding. -/
inductive IsDouble : Binary64 → Prop
  | nan : IsDouble .nan
  | infinite (negative : Bool) : IsDouble (.infinite negative)
  | finite (negative : Bool) {u : Nat} (kept : roundUnits u 1 = u) (fits : u < limit) :
      IsDouble (.finite negative u)

theorem isDouble_ofUnits (negative : Bool) (num den : Nat) :
    (ofUnits negative (roundUnits num den)).IsDouble := by
  unfold ofUnits
  split
  next hfits => exact .finite negative (roundUnits_idem num den) hfits
  next => exact .infinite negative

theorem isDouble_ofRatio (negative : Bool) (num den : Nat) : (ofRatio negative num den).IsDouble :=
  isDouble_ofUnits negative _ den

theorem isDouble_ofInt (i : Int) : (ofInt i).IsDouble := isDouble_ofRatio _ _ 1

theorem isDouble_of_ofInt? {i : Int} {x : Binary64} (h : ofInt? i = some x) : x.IsDouble := by
  rw [ofInt?, Option.ite_none_right_eq_some] at h
  rw [← Option.some.inj h.2]
  exact isDouble_ofInt i

theorem limit_pos : 0 < limit := by
  obtain ⟨k, _, hlimit⟩ := one_shape
  rw [hlimit]
  exact Nat.two_pow_pos _

theorem isDouble_zero (negative : Bool) : (Binary64.finite negative 0).IsDouble :=
  .finite negative (roundUnits_of_dvd (Nat.dvd_zero _)) limit_pos

theorem isDouble_toBinary64 (d : Decimal) : d.toBinary64.IsDouble := by
  unfold Decimal.toBinary64
  split
  · exact isDouble_zero _
  split
  · exact .infinite _
  split
  · exact isDouble_zero _
  split
  · exact isDouble_ofRatio ..
  · exact isDouble_ofRatio ..

/-- A number of the format that is not negative needs no rounding, unless it is infinite or a zero with
a sign. -/
theorem IsDouble.of_nonnegative {x : Binary64} (h : x.IsDouble) {o : Ordering}
    (hcompare : x.compareInt? 0 = some o) (hleast : o ≠ .lt) :
    x.Rounded ∨ x = .infinite false ∨ x = .finite true 0 := by
  cases h with
  | nan => exact nomatch hcompare
  | infinite negative =>
    cases negative with
    | true => exact absurd (Option.some.inj hcompare).symm hleast
    | false => exact .inr (.inl rfl)
  | @finite negative u kept fits =>
    cases negative with
    | false => exact .inl (.intro kept fits)
    | true =>
      have hsame : compare (-(u : Int)) (0 * (one : Int)) = o := Option.some.inj hcompare
      rw [Int.zero_mul] at hsame
      rw [← hsame, Int.compare_ne_lt] at hleast
      obtain rfl : u = 0 := by omega
      exact .inr (.inr rfl)

end Binary64

/-- A number that is read from a text is one of the format. -/
theorem Number.isDouble_scanNumber {cs : List Char} {x : Binary64} (h : scanNumber? cs = some x) :
    x.IsDouble := by
  unfold scanNumber? at h
  dsimp only at h
  split at h
  · cases h
    exact .infinite _
  split at h
  · cases h
    exact .nan
  · obtain ⟨d, _, rfl⟩ := Option.map_eq_some_iff.1 h
    exact Binary64.isDouble_toBinary64 _

end SchoolCatalog
