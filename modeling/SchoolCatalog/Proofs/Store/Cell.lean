import SchoolCatalog.Store.Cell
import SchoolCatalog.Proofs.Number.Rounding

/-!
# Stored values

What a cell of the database can be, and how cells compare. A proper cell holds an integer of 64 bits or
a fraction that is no NaN, if it holds a number; binding and storing give proper cells only. Proper
cells are compared by a key, and the order of keys is total and transitive.

Results:
1. `bind_proper`, `store_proper`: what is bound or stored is proper.
2. `compare_eq_keyCompare`: proper cells are ordered like their keys.
3. `Keeps.compare_int`: what an integer column keeps equals an identity only if it is that integer.
-/

namespace SchoolCatalog

/-! ## Readings that are numbers -/

namespace Binary64

@[simp] theorem isNaN_ofUnits (negative : Bool) (units : Nat) :
    (ofUnits negative units).isNaN = false := by
  unfold ofUnits
  split <;> rfl

@[simp] theorem isNaN_ofRatio (negative : Bool) (num den : Nat) :
    (ofRatio negative num den).isNaN = false :=
  isNaN_ofUnits _ _

@[simp] theorem isNaN_ofInt (i : Int) : (ofInt i).isNaN = false := isNaN_ofRatio _ _ _

theorem toInt?_of_units {negative : Bool} {units : Nat} {i : Int}
    (h : (if negative then -(units : Int) else units) = i * (one : Int)) :
    (finite negative units).toInt? = some i := by
  have hone : (one : Int) ≠ 0 := Int.natCast_ne_zero.2 (Nat.ne_of_gt one_pos)
  have hunits : (units : Int) = (if negative then -i else i) * (one : Int) := by
    cases negative
    · exact h
    · rw [if_pos rfl, Int.neg_mul, ← h, if_pos rfl, Int.neg_neg]
  have hdvd : one ∣ units := Int.natCast_dvd_natCast.1 ⟨_, hunits.trans (Int.mul_comm _ _)⟩
  have hquotient : ((units / one : Nat) : Int) = if negative then -i else i := by
    refine Int.eq_of_mul_eq_mul_right hone ?_
    rw [← Int.natCast_mul, Nat.div_mul_cancel hdvd, hunits]
  rw [toInt?, if_pos (Nat.mod_eq_zero_of_dvd hdvd), hquotient]
  cases negative
  · rfl
  · rw [if_pos rfl, if_pos rfl, Int.neg_neg]

/-- A whole number that needs no rounding is read back from its integer. -/
theorem ofInt_of_rounded {u : Nat} (kept : roundUnits u 1 = u) (fits : u < limit) {i : Int}
    (h : (finite false u).toInt? = some i) : ofInt i = finite false u := by
  rw [toInt?] at h
  split at h
  next hdvd =>
    cases Option.some.inj h
    have hunits : u / one * one = u := Nat.div_mul_cancel (Nat.dvd_of_mod_eq_zero hdvd)
    have hsign : decide (((u / one : Nat) : Int) < 0) = false :=
      decide_eq_false_iff_not.2 (Int.not_lt.2 (Int.natCast_nonneg _))
    show ofInt ((u / one : Nat) : Int) = _
    rw [ofInt, ofRatio, Int.natAbs_natCast, hunits, kept, hsign, ofUnits, if_pos fits]
  next => exact nomatch h

end Binary64

namespace Number

open Binary64

theorem isNaN_decimal (d : Decimal) : d.toBinary64.isNaN = false := by
  unfold Decimal.toBinary64
  split
  · rfl
  · split
    · rfl
    · split
      · rfl
      · split <;> rw [isNaN_ofRatio]

theorem isNaN_scaleLong {negative up : Bool} {x : Binary64} (h : x.isNaN = false) :
    (scaleLong negative up x).isNaN = false := by
  have hten := isNaN_decimal ⟨false, 1, longStep⟩
  unfold scaleLong
  generalize Decimal.toBinary64 ⟨false, 1, longStep⟩ = ten at hten ⊢
  split
  · split
    · split <;> rw [isNaN_ofRatio]
    · exact hten
  · exact h

theorem isNaN_scaled (negative up : Bool) (value e : Nat) :
    (scaled negative value up e).isNaN = false := by
  unfold scaled
  dsimp only
  split
  · rw [isNaN_ofRatio]
  · split
    · rw [Wide.toBinary64, isNaN_ofRatio]
    · split
      · exact isNaN_scaleLong (by rw [Wide.toBinary64, isNaN_ofRatio])
      · split <;> rfl

theorem isNaN_significand (s : Significand) (negative : Bool) :
    (s.toBinary64 negative).isNaN = false := by
  unfold Significand.toBinary64
  split
  · rfl
  · split <;> exact isNaN_scaled _ _ _ _

theorem isNaN_readFraction {negative : Bool} {cs : List Char} {x : Binary64}
    (h : readFraction? negative cs = some x) : x.isNaN = false := by
  unfold readFraction? at h
  dsimp only at h
  split at h
  all_goals
    split at h
    · exact nomatch h
    · obtain ⟨e, _, rfl⟩ := Option.map_eq_some_iff.1 h
      exact isNaN_significand _ _

/-- An integer of 64 bits, or a fraction that is no NaN. -/
def Stored.Proper : Stored → Prop
  | whole i => fitsWord i
  | fraction x => x.isNaN = false

theorem readStored?_proper {s : String} {n : Stored} (h : readStored? s = some n) : n.Proper := by
  unfold readStored? at h
  generalize takeSign (Text.trimList Text.isAsciiSpace s.toList) = read at h
  dsimp only at h
  generalize (if read.1 then _ else _ : Int) = value at h
  split at h
  next hwhole =>
    cases Option.some.inj h
    exact (Bool.and_eq_true_iff.1 hwhole).2
  next =>
    obtain ⟨x, hx, rfl⟩ := Option.map_eq_some_iff.1 h
    exact isNaN_readFraction hx

end Number

namespace Store

namespace Cell

/-! ## Proper cells -/

/-- A cell as the database keeps it: an integer has 64 bits and a fraction is no NaN. -/
def Proper : Cell → Prop
  | int i => Number.fitsWord i
  | real x => x.isNaN = false
  | _ => True

instance : DecidablePred Proper
  | null => .isTrue trivial
  | int i => inferInstanceAs (Decidable (Number.fitsWord i = true))
  | real x => inferInstanceAs (Decidable (x.isNaN = false))
  | text _ => .isTrue trivial
  | blob _ => .isTrue trivial

theorem bind_proper {d : Datum} {c : Cell} (h : bind d = .ok c) : c.Proper := by
  cases d with
  | null => cases h; trivial
  | bool b =>
    cases h
    cases b <;> (show Number.fitsWord _ = true) <;> decide
  | int i =>
    simp only [bind] at h
    split at h
    next hfits => cases h; exact hfits
    next => cases h
  | real x =>
    cases h
    cases hnan : x.isNaN with
    | true => trivial
    | false => exact hnan
  | text s => cases h; trivial
  | bytes b => cases h; trivial
  | broken points => cases h
  | list items => cases h
  | dict entries => cases h

end Cell

namespace Affinity

open Cell

theorem wholeIfPossible_cases (x : Binary64) :
    wholeIfPossible x = .real x ∨ ∃ i, x.toInt? = some i ∧ wholeIfPossible x = .int i ∧
      Number.leastWord < i ∧ i ≤ Number.greatestWord := by
  unfold wholeIfPossible
  split
  next i hi =>
    split
    next hrange =>
      simp only [Bool.and_eq_true, decide_eq_true_eq] at hrange
      exact .inr ⟨i, hi, rfl, hrange⟩
    next => exact .inl rfl
  next => exact .inl rfl

theorem wholeIfPossible_proper {x : Binary64} (h : x.isNaN = false) :
    (wholeIfPossible x).Proper := by
  rcases wholeIfPossible_cases x with hreal | ⟨i, _, hint, hleast, hmost⟩
  · rw [hreal]
    exact h
  · rw [hint]
    show Number.fitsWord i = true
    simp only [Number.fitsWord, Bool.and_eq_true, decide_eq_true_eq]
    exact ⟨Int.le_of_lt hleast, hmost⟩

theorem toNumeric_proper {c : Cell} (h : c.Proper) : (toNumeric c).Proper := by
  cases c with
  | null => trivial
  | int i => exact h
  | real x => exact wholeIfPossible_proper h
  | blob b => trivial
  | text s =>
    rw [toNumeric]
    split
    next i hi => exact Number.readStored?_proper hi
    next x hx => exact wholeIfPossible_proper (Number.readStored?_proper hx)
    next => trivial

theorem toText_proper {c : Cell} (h : c.Proper) : (toText c).Proper := by
  cases c <;> trivial

/-- Storing a proper cell gives a proper cell. -/
theorem store_proper {c : Cell} (a : Affinity) (h : c.Proper) : (a.store c).Proper := by
  cases a with
  | integer => exact toNumeric_proper h
  | numeric => exact toNumeric_proper h
  | text => exact toText_proper h
  | anything => exact h
  | real =>
    have hnumeric := toNumeric_proper h
    rw [store]
    split
    · exact Binary64.isNaN_ofInt _
    · exact hnumeric

theorem adapt_proper {c : Cell} (a : Affinity) (h : c.Proper) : (a.adapt c).Proper := by
  cases a with
  | text => exact toText_proper h
  | anything => exact h
  | integer => exact toNumeric_proper h
  | numeric => exact toNumeric_proper h
  | real => exact toNumeric_proper h

/-- What a column of an affinity may hold: what some proper cell turns into there. -/
def Keeps (a : Affinity) (c : Cell) : Prop := ∃ v : Cell, v.Proper ∧ a.store v = c

theorem Keeps.proper {a : Affinity} {c : Cell} (h : a.Keeps c) : c.Proper := by
  obtain ⟨v, hv, rfl⟩ := h
  exact store_proper a hv

end Affinity

/-! ## The order of cells -/

namespace Cell

/-- The end of the line of numbers that a cell lies at, zero for one between the ends. -/
def side : Cell → Int
  | real (.infinite negative) => if negative then -1 else 1
  | _ => 0

/-- The signed count of units of a number. -/
def units : Cell → Int
  | int i => i * (Binary64.one : Int)
  | real (.finite negative u) => if negative then -(u : Int) else u
  | _ => 0

def letters : Cell → String
  | text s => s
  | _ => ""

def octets : Cell → Bytes
  | blob b => b
  | _ => []

/-- The order of cells by their keys, part by part. -/
def keyCompare : Cell → Cell → Ordering :=
  compareLex (compareOn rank) <| compareLex (compareOn side) <| compareLex (compareOn units) <|
    compareLex (compareOn letters) (compareOn octets)

instance : Std.TransCmp keyCompare := by
  unfold keyCompare
  infer_instance

theorem compareBytes_eq (s t : Bytes) : compareBytes s t = Ord.compare s t := by
  show _ = List.compareLex Ord.compare s t
  induction s generalizing t with
  | nil => cases t <;> simp [compareBytes, List.compareLex]
  | cons a s ih =>
    cases t with
    | nil => simp [compareBytes, List.compareLex]
    | cons b t =>
      rw [compareBytes, List.compareLex_cons_cons, ih]

theorem compare_units (i j : Int) :
    Ord.compare (i * (Binary64.one : Int)) (j * (Binary64.one : Int)) = Ord.compare i j := by
  have hpos : 0 < (Binary64.one : Int) := Int.natCast_pos.2 Binary64.one_pos
  generalize (Binary64.one : Int) = unit at hpos
  show compareOfLessAndEq _ _ = compareOfLessAndEq _ _
  unfold compareOfLessAndEq
  simp only [Int.mul_lt_mul_right hpos, Int.mul_eq_mul_right_iff (Int.ne_of_gt hpos)]

theorem compareInt?_eq {x : Binary64} (h : x.isNaN = false) (i : Int) :
    x.compareInt? i =
      some ((Ord.compare (side (real x)) 0).then (Ord.compare (units (real x)) (units (int i)))) := by
  cases x with
  | nan => exact nomatch h
  | infinite negative => cases negative <;> rfl
  | finite negative u => rfl

theorem compare?_eq {x y : Binary64} (hx : x.isNaN = false) (hy : y.isNaN = false) :
    x.compare? y =
      some ((Ord.compare (side (real x)) (side (real y))).then
        (Ord.compare (units (real x)) (units (real y)))) := by
  cases x with
  | nan => exact nomatch hx
  | infinite s =>
    cases y with
    | nan => exact nomatch hy
    | infinite t => cases s <;> cases t <;> rfl
    | finite t v => cases s <;> rfl
  | finite s u =>
    cases y with
    | nan => exact nomatch hy
    | infinite t => cases t <;> rfl
    | finite t v => rfl

/-- Proper cells are ordered like their keys. -/
theorem compare_eq_keyCompare {x y : Cell} (hx : x.Proper) (hy : y.Proper) :
    x.compare y = keyCompare x y := by
  -- cells of different kinds differ in rank, so that the parts after it do not count
  cases x <;> cases y
  all_goals try rfl
  case int.int i j =>
    show (Ord.compare i j) = (Ord.compare (units (int i)) (units (int j))).then .eq
    rw [units, units, compare_units, Ordering.then_eq]
  case int.real i x =>
    show ((x.compareInt? i).map Ordering.swap).getD .eq =
      (Ord.compare 0 (side (real x))).then
        ((Ord.compare (units (int i)) (units (real x))).then .eq)
    rw [compareInt?_eq hy, Ordering.then_eq]
    show Ordering.swap _ = _
    rw [Ordering.swap_then, ← Std.OrientedOrd.eq_swap, ← Std.OrientedOrd.eq_swap]
  case real.int x i =>
    show ((x.compareInt? i).getD .eq) =
      (Ord.compare (side (real x)) 0).then
        ((Ord.compare (units (real x)) (units (int i))).then .eq)
    rw [compareInt?_eq hx, Ordering.then_eq]
    rfl
  case real.real x y =>
    show ((x.compare? y).getD .eq) =
      (Ord.compare (side (real x)) (side (real y))).then
        ((Ord.compare (units (real x)) (units (real y))).then .eq)
    rw [compare?_eq hx hy, Ordering.then_eq]
    rfl
  case text.text s t =>
    show Ord.compare s t = (Ord.compare s t).then .eq
    rw [Ordering.then_eq]
  case blob.blob s t =>
    show compareBytes s t = Ord.compare s t
    rw [compareBytes_eq]

theorem compare_swap {x y : Cell} (hx : x.Proper) (hy : y.Proper) :
    y.compare x = (x.compare y).swap := by
  rw [compare_eq_keyCompare hx hy, compare_eq_keyCompare hy hx]
  exact Std.OrientedCmp.eq_swap

/-- Null equals null alone. -/
theorem isNull_eq_of_compare {x y : Cell} (h : x.compare y = .eq) : x.isNull = y.isNull := by
  cases x <;> cases y
  all_goals first
    | rfl
    | exact nomatch (show Ordering.lt = .eq from h)
    | exact nomatch (show Ordering.gt = .eq from h)

theorem compare_self {x : Cell} (hx : x.Proper) : x.compare x = .eq := by
  rw [compare_eq_keyCompare hx hx]
  exact Std.ReflCmp.compare_self

/-! ## Identities -/

/-- The integers that can be the identity of a row. -/
def IsIdentity (i : Int) : Prop := 0 < i ∧ i ≤ Number.greatestWord

theorem IsIdentity.proper {i : Int} (h : IsIdentity i) : (int i).Proper := by
  obtain ⟨hleast, hmost⟩ := h
  show Number.fitsWord i = true
  simp only [Number.fitsWord, Bool.and_eq_true, decide_eq_true_eq]
  exact ⟨Int.le_trans (by decide) (Int.le_of_lt hleast), hmost⟩

theorem compare_int_eq {c : Cell} {i : Int} (hc : c.Proper) (hi : (int i).Proper)
    (h : c.compare (int i) = .eq) : c = int i ∨ ∃ x, c = real x ∧ x.toInt? = some i := by
  have hkey := (compare_eq_keyCompare hc hi).symm.trans h
  cases c with
  | null => exact nomatch hkey
  | text s => exact nomatch hkey
  | blob b => exact nomatch hkey
  | int j =>
    have hcompare : Ord.compare j i = .eq := h
    rw [Std.LawfulEqOrd.compare_eq_iff_eq] at hcompare
    exact .inl (by rw [hcompare])
  | real x =>
    refine .inr ⟨x, rfl, ?_⟩
    have hparts : (Ord.compare (side (real x)) 0).then
        ((Ord.compare (units (real x)) (units (int i))).then .eq) = .eq := hkey
    rw [Ordering.then_eq, Ordering.then_eq_eq] at hparts
    obtain ⟨hside, hunits⟩ := hparts
    rw [Std.LawfulEqOrd.compare_eq_iff_eq] at hside hunits
    cases x with
    | nan => exact nomatch hc
    | infinite negative => cases negative <;> exact absurd hside (by decide)
    | finite negative u => exact Binary64.toInt?_of_units hunits

end Cell

namespace Affinity

open Cell

/-- A fraction that stays one when it is made numeric is not whole, or out of range. -/
theorem toNumeric_eq_real {c : Cell} {x : Binary64} (h : toNumeric c = .real x) :
    wholeIfPossible x = .real x := by
  have hfraction (y : Binary64) (hy : wholeIfPossible y = .real x) : wholeIfPossible x = .real x := by
    rcases wholeIfPossible_cases y with hreal | ⟨i, _, hint, _⟩
    · cases hreal.symm.trans hy
      exact hreal
    · exact nomatch hint.symm.trans hy
  cases c with
  | real y => exact hfraction y h
  | null => exact nomatch h
  | int j => exact nomatch h
  | blob b => exact nomatch h
  | text s =>
    rw [toNumeric] at h
    split at h
    next => exact nomatch h
    next y _ => exact hfraction y h
    next => exact nomatch h

/-- What is made numeric equals an identity only if it is that integer. -/
theorem compare_toNumeric {c : Cell} {i : Int} (hc : c.Proper) (hi : IsIdentity i) :
    (toNumeric c).compare (.int i) = .eq ↔ toNumeric c = .int i := by
  constructor
  · intro h
    rcases compare_int_eq (toNumeric_proper hc) hi.proper h with hint | ⟨x, hreal, hx⟩
    · exact hint
    · -- a fraction that is left over is not whole, since an identity is within range
      have hwhole := toNumeric_eq_real hreal
      have hrange : Number.leastWord < i ∧ i ≤ Number.greatestWord :=
        ⟨Int.lt_trans (by decide) hi.1, hi.2⟩
      rw [wholeIfPossible, hx] at hwhole
      simp only [hrange.1, hrange.2, decide_true, Bool.and_self, if_true] at hwhole
      exact nomatch hwhole
  · intro h
    rw [h]
    exact compare_self hi.proper

/-- A number that needs no rounding is stored in a column of fractions as it is. -/
theorem store_rounded {x : Binary64} (h : x.Rounded) : real.store (.real x) = .real x := by
  cases h with
  | @intro u kept fits =>
    rw [store, toNumeric]
    rcases wholeIfPossible_cases (.finite false u) with hreal | ⟨i, hi, hint, _⟩
    · rw [hreal]
    · -- a whole number is kept as an integer on the way
      rw [hint]
      exact congrArg Cell.real (Binary64.ofInt_of_rounded kept fits hi)

theorem Keeps.compare_int {c : Cell} {i : Int} (h : integer.Keeps c) (hi : IsIdentity i) :
    c.compare (.int i) = .eq ↔ c = .int i := by
  obtain ⟨v, hv, rfl⟩ := h
  exact compare_toNumeric hv hi

/-- An identity equals what a key is adapted to only if that is the identity. -/
theorem compare_adapt {c : Cell} {i : Int} (hc : c.Proper) (hi : IsIdentity i) :
    (Cell.int i).compare (integer.adapt c) = .eq ↔ integer.adapt c = .int i := by
  rw [compare_swap (adapt_proper integer hc) hi.proper, Ordering.swap_eq_eq]
  exact compare_toNumeric hc hi

end Affinity

end Store
end SchoolCatalog
