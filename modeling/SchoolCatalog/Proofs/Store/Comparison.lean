import Mathlib.Data.String.Basic
import Mathlib.Order.Compare
import Mathlib.Order.WithBot
import SchoolCatalog.Proofs.Store.Contents
import SchoolCatalog.Query.Condition

/-!
# Comparing stored values

What it means that a stored value matches a value asked for, told apart from how cells are compared.
Numbers lie on one line, on which flags stand at zero and one, and match by their exact places there;
texts match by code points; nothing else matches. What a column does to a value before it is compared
leaves a number where it lies, so that comparing cells comes to the same.

Results:
1. `compare_places`: cells with numbers are ordered like the places of their numbers.
2. `place_adapt`: a column of numbers leaves a number where it lies.
3. `matches_iff`: what comparing in a column that suits a value comes to.
-/

namespace SchoolCatalog

open Store

/-! ## The line of numbers -/

/-- The line of numbers, counted in the units of fractions, with the infinities at its ends. -/
abbrev Line := WithBot (WithTop Int)

/-- The place that is a signed count of units away from zero. -/
def Line.point (units : Int) : Line := ((units : WithTop Int) : WithBot (WithTop Int))

/-- Where a number lies. -/
def Binary64.place? : Binary64 → Option Line
  | nan => none
  | infinite negative => some (if negative then ⊥ else ⊤)
  | finite negative units => some (.point (if negative then -(units : Int) else units))

/-- Where an integer lies. -/
def Line.ofInt (i : Int) : Line := .point (i * (Binary64.one : Int))

/-- Where the number in a cell lies. -/
def Store.Cell.place? : Cell → Option Line
  | int i => some (.ofInt i)
  | real x => x.place?
  | _ => none

/-- Where a value asked for lies, if it is a number or a flag. -/
def Datum.place? : Datum → Option Line
  | bool b => some (.ofInt (if b then 1 else 0))
  | int i => some (.ofInt i)
  | real x => x.place?
  | _ => none

theorem Line.point_strictMono : StrictMono Line.point :=
  WithBot.coe_strictMono.comp WithTop.coe_strictMono

theorem Line.compares_point (i j : Int) : (Ord.compare i j).Compares (Line.point i) (Line.point j) :=
  Line.point_strictMono.compares.2 ((compare_iff i j).1 rfl)

theorem Line.compares_ofInt (i j : Int) :
    (Ord.compare i j).Compares (Line.ofInt i) (Line.ofInt j) := by
  have h := Line.compares_point (i * (Binary64.one : Int)) (j * (Binary64.one : Int))
  rwa [Cell.compare_units] at h

theorem Line.bot_lt_point (i : Int) : (⊥ : Line) < Line.point i := WithBot.bot_lt_coe _

theorem Line.point_lt_top (i : Int) : Line.point i < (⊤ : Line) :=
  WithBot.coe_lt_coe.2 (WithTop.coe_lt_top i)

namespace Store

namespace Cell

variable {x y : Cell} {a b : Line}

theorem isNull_iff : x.isNull = true ↔ x = null := by
  cases x <;> simp [isNull]

theorem compare_int_real (i : Int) {z : Binary64} (hb : z.place? = some b) :
    ((int i).compare (real z)).Compares (Line.ofInt i) b := by
  cases z with
  | nan => exact nomatch hb
  | infinite negative =>
    cases hb
    cases negative
    · exact Line.point_lt_top _
    · exact Line.bot_lt_point _
  | finite negative units =>
    cases hb
    exact (Line.compares_point _ _).swap

theorem compare_real_real {z w : Binary64} (ha : z.place? = some a) (hb : w.place? = some b) :
    ((real z).compare (real w)).Compares a b := by
  cases z with
  | nan => exact nomatch ha
  | infinite s =>
    cases ha
    cases w with
    | nan => exact nomatch hb
    | infinite t => cases hb; cases s <;> cases t <;> first | rfl | exact bot_lt_top
    | finite t v =>
      cases hb
      cases s
      · exact Line.point_lt_top _
      · exact Line.bot_lt_point _
  | finite s u =>
    cases ha
    cases w with
    | nan => exact nomatch hb
    | infinite t =>
      cases hb
      cases t
      · exact Line.point_lt_top _
      · exact Line.bot_lt_point _
    | finite t v => cases hb; exact Line.compares_point _ _

/-- Cells with numbers are ordered like the places of their numbers. -/
theorem compare_places (ha : x.place? = some a) (hb : y.place? = some b) :
    (x.compare y).Compares a b := by
  cases x with
  | int i =>
    cases ha
    cases y with
    | int j => cases hb; exact Line.compares_ofInt i j
    | real w => exact compare_int_real i hb
    | _ => exact nomatch hb
  | real z =>
    cases y with
    | int j =>
      cases hb
      have hswap : (real z).compare (int j) = ((int j).compare (real z)).swap := by
        show (z.compareInt? j).getD .eq = (((z.compareInt? j).map Ordering.swap).getD .eq).swap
        cases z.compareInt? j with
        | none => rfl
        | some o => exact Ordering.swap_swap.symm
      rw [hswap]
      exact (compare_int_real j ha).swap
    | real w => exact compare_real_real ha hb
    | _ => exact nomatch hb
  | _ => exact nomatch ha

theorem compare_texts (s t : String) : ((text s).compare (text t)).Compares s t :=
  (compare_iff s t).1 rfl

end Cell

/-! ## Columns of numbers -/

namespace Affinity

variable {v : Cell} {x : Line}

theorem place_wholeIfPossible (z : Binary64) : (wholeIfPossible z).place? = z.place? := by
  rcases wholeIfPossible_cases z with hreal | ⟨i, hi, hint, _⟩
  · rw [hreal]
    rfl
  · rw [hint]
    cases z with
    | nan => cases hi
    | infinite s => cases hi
    | finite s u =>
      rw [Binary64.toInt?] at hi
      split at hi
      next hwhole =>
        cases hi
        have hunits : ((u / Binary64.one : Nat) : Int) * (Binary64.one : Int) = u := by
          rw [← Int.natCast_mul, Nat.div_mul_cancel (Nat.dvd_of_mod_eq_zero hwhole)]
        show some (Line.ofInt _) = some (Line.point _)
        cases s
        · exact congrArg (some ∘ Line.point) hunits
        · refine congrArg (some ∘ Line.point) ?_
          rw [if_pos rfl, if_pos rfl, Int.neg_mul, hunits]
      next => cases hi

/-- A column of numbers leaves a number where it lies. -/
theorem place_adapt {affinity : Affinity} (hnumeric : affinity = integer ∨ affinity = real)
    (hv : v.place? = some x) : (affinity.adapt v).place? = some x := by
  have hsame : (toNumeric v).place? = some x := by
    cases v with
    | int i => exact hv
    | real z => rw [← hv]; exact place_wholeIfPossible z
    | _ => exact nomatch hv
  rcases hnumeric with rfl | rfl <;> exact hsame

end Affinity

end Store

/-! ## Operators -/

namespace Operator

/-- The relation that an operator asks for between a stored value and one asked for, in any order. -/
def Relates {α : Type} [LE α] [LT α] : Operator → α → α → Prop
  | eq, x, y => x = y
  | oneOf, x, y => x = y
  | ne, x, y => x ≠ y
  | gt, x, y => y < x
  | gte, x, y => y ≤ x
  | lt, x, y => x < y
  | lte, x, y => x ≤ y

/-- Whether an operator is satisfied by how a stored value is ordered to one asked for. -/
def allows : Operator → Ordering → Bool
  | eq, o => o = .eq
  | oneOf, o => o = .eq
  | ne, o => o ≠ .eq
  | gt, o => o = .gt
  | gte, o => o ≠ .lt
  | lt, o => o = .lt
  | lte, o => o ≠ .gt

theorem relates_iff {α : Type} [LinearOrder α] {x y : α} {o : Ordering} (h : o.Compares x y)
    (operator : Operator) : operator.Relates x y ↔ operator.allows o = true := by
  have hlt : o = .lt ↔ x < y := h.eq_lt
  have heq : o = .eq ↔ x = y := h.eq_eq
  have hgt : o = .gt ↔ y < x := h.eq_gt
  cases operator with
  | eq => simp [Relates, allows, heq]
  | oneOf => simp [Relates, allows, heq]
  | ne => simp [Relates, allows, heq]
  | gt => simp [Relates, allows, hgt]
  | gte => simp [Relates, allows, hlt]
  | lt => simp [Relates, allows, hlt]
  | lte => simp [Relates, allows, hgt]

end Operator

/-- A stored value stands in the relation that an operator asks for to a value asked for: as numbers, or
as texts. -/
inductive Matches (operator : Operator) : Cell → Datum → Prop
  | number {cell : Cell} {d : Datum} {x y : Line} (hx : cell.place? = some x)
      (hy : d.place? = some y) (relates : operator.Relates x y) : Matches operator cell d
  | text {s t : String} (relates : operator.Relates s t) : Matches operator (.text s) (.text t)

namespace Store

/-- A number asked for lies in its cell where it lies itself. -/
theorem place_bind {d : Datum} {v : Cell} {x : Line} (hx : d.place? = some x)
    (hv : Cell.bind d = .ok v) : v.place? = some x := by
  cases d with
  | bool b => cases hv; exact hx
  | int i =>
    rw [Cell.bind] at hv
    split at hv
    · cases hv
      exact hx
    · cases hv
  | real z =>
    have hnan : z.isNaN = false := by
      cases z with
      | nan => cases hx
      | _ => rfl
    rw [Cell.bind, hnan] at hv
    cases hv
    exact hx
  | _ => cases hx

theorem place_numeric {cell : Cell} (h : cell.Numeric) (hproper : cell.Proper)
    (hne : cell.isNull = false) : ∃ x, cell.place? = some x := by
  cases h with
  | null => exact nomatch hne
  | int i => exact ⟨_, rfl⟩
  | real z =>
    cases z with
    | nan => exact nomatch hproper
    | infinite s => exact ⟨_, rfl⟩
    | finite s u => exact ⟨_, rfl⟩

theorem not_null_of_place {cell : Cell} {x : Line} (h : cell.place? = some x) : cell.isNull = false := by
  cases cell with
  | null => exact nomatch h
  | _ => rfl

/-- Nothing at all matches no value. -/
theorem not_matches_null {operator : Operator} {d : Datum} : ¬ Matches operator .null d :=
  fun h => by
    cases h with
    | number hx _ _ => exact nomatch hx

/-- How a cell of a column is ordered to a value asked for; undecided if one of them is nothing. -/
def decided (affinity : Affinity) (cell v : Cell) : Option Ordering :=
  if cell.isNull || v.isNull then none else some (cell.compare (affinity.adapt v))

/-- A value that a column of an affinity is asked for: a text of a column of texts, a number of a column
of numbers. -/
inductive Affinity.Asks : Affinity → Datum → Prop
  | text (s : String) : Asks .text (.text s)
  | number {affinity : Affinity} {d : Datum} {x : Line} (hnumeric : affinity = .integer ∨ affinity = .real)
      (hx : d.place? = some x) : Asks affinity d

/-- How a cell that is there is ordered to a value of its kind tells whether it matches. -/
theorem matches_iff_allows {affinity : Affinity} {cell v : Cell} {d : Datum}
    (hholds : affinity.Holds cell) (hproper : cell.Proper) (hnull : cell.isNull = false)
    (hasks : affinity.Asks d) (hv : Cell.bind d = .ok v) (operator : Operator) :
    v.isNull = false ∧
      (Matches operator cell d ↔ operator.allows (cell.compare (affinity.adapt v)) = true) := by
  cases hasks with
  | text t =>
    cases hv
    cases hholds with
    | null => exact nomatch hnull
    | text s =>
      have hrelates := Operator.relates_iff (Cell.compare_texts s t) operator
      refine ⟨rfl, Iff.trans ⟨fun h => ?_, .text⟩ hrelates⟩
      cases h with
      | number hx _ _ => exact nomatch hx
      | text relates => exact relates
  | @number _ _ y hnumeric hy =>
    have hcell : cell.Numeric := by
      rcases hnumeric with rfl | rfl <;> exact hholds
    obtain ⟨x, hx⟩ := place_numeric hcell hproper hnull
    have hplace := place_bind hy hv
    -- the column leaves the number where it lies, so that the cells are ordered like the two places
    have hcompare := Cell.compare_places hx (Affinity.place_adapt hnumeric hplace)
    refine ⟨not_null_of_place hplace,
      Iff.trans ⟨fun h => ?_, .number hx hy⟩ (Operator.relates_iff hcompare operator)⟩
    cases h with
    | number hx' hy' relates =>
      cases hx.symm.trans hx'
      cases hy.symm.trans hy'
      exact relates
    | text _ => exact nomatch hx

/-- What comparing in a column that suits a value comes to. -/
theorem matches_iff {affinity : Affinity} {cell v : Cell} {d : Datum} (hholds : affinity.Holds cell)
    (hproper : cell.Proper) (hasks : affinity.Asks d) (hv : Cell.bind d = .ok v) (operator : Operator) :
    Matches operator cell d ↔ ∃ o, decided affinity cell v = some o ∧ operator.allows o = true := by
  unfold decided
  cases hnull : cell.isNull with
  | true =>
    have hnone : cell = .null := Cell.isNull_iff.1 hnull
    exact ⟨fun h => absurd (hnone ▸ h) not_matches_null, fun ⟨_, h, _⟩ => nomatch h⟩
  | false =>
    obtain ⟨hvalue, hiff⟩ := matches_iff_allows hholds hproper hnull hasks hv operator
    rw [hvalue, hiff]
    exact ⟨fun h => ⟨_, rfl, h⟩, fun ⟨_, hsome, h⟩ => Option.some.inj hsome ▸ h⟩

end Store
end SchoolCatalog
