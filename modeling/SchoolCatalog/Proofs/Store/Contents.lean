import SchoolCatalog.Proofs.Calendar
import SchoolCatalog.Proofs.Store.Sound

/-!
# What columns hold

A column of texts holds a text or nothing, a column of numbers a number or nothing, and a column of
instants a stamp. That is more than the rules of a table ask for: the affinity of a column alone would let
bytes, and numbers that are not read as numbers, stand in it.

Results:
1. `holds_store`: what a value that suits a column turns into there is what the column holds.
2. `holds_default`: so are the defaults.
-/

namespace SchoolCatalog.Store

/-! ## Cells -/

/-- Nothing, or a number. -/
inductive Cell.Numeric : Cell → Prop
  | null : Numeric .null
  | int (i : Int) : Numeric (.int i)
  | real (x : Binary64) : Numeric (.real x)

/-- Nothing, or a text. -/
inductive Cell.Textual : Cell → Prop
  | null : Textual .null
  | text (s : String) : Textual (.text s)

/-- The stamp of an instant. -/
inductive Cell.Dated : Cell → Prop
  | stamp {s : String} : IsStamp s → Dated (.text s)

namespace Affinity

/-- What a column of an affinity holds; the columns of instants are the numeric ones. -/
def Holds : Affinity → Cell → Prop
  | text => Cell.Textual
  | integer => Cell.Numeric
  | real => Cell.Numeric
  | numeric => Cell.Dated
  | anything => fun _ => True

/-- Whether a value is of the kind that a column of an affinity holds. -/
def suits : Affinity → Datum → Bool
  | text, .bytes _ => false
  | text, _ => true
  | integer, .text _ => false
  | integer, .bytes _ => false
  | integer, _ => true
  | real, .text _ => false
  | real, .bytes _ => false
  | real, _ => true
  | numeric, _ => false
  | anything, _ => true

theorem wholeIfPossible_numeric (x : Binary64) : (wholeIfPossible x).Numeric := by
  rcases wholeIfPossible_cases x with hreal | ⟨i, _, hint, _⟩
  · exact hreal ▸ .real x
  · exact hint ▸ .int i

theorem toText_textual {v : Cell} (h : ∀ b, v ≠ .blob b) : (toText v).Textual := by
  cases v with
  | null => exact .null
  | int i => exact .text _
  | real x => exact .text _
  | text s => exact .text s
  | blob b => exact absurd rfl (h b)

theorem toNumeric_numeric {v : Cell} (h : v.Numeric) : (toNumeric v).Numeric := by
  cases h with
  | null => exact .null
  | int i => exact .int i
  | real x => exact wholeIfPossible_numeric x

theorem store_real_numeric {v : Cell} (h : v.Numeric) : (real.store v).Numeric := by
  have hnumeric := toNumeric_numeric h
  rw [store]
  split
  · exact .real _
  · exact hnumeric

/-- A number, a flag or nothing is bound as a number or as nothing. -/
theorem bind_numeric {d : Datum} {v : Cell} (hbind : Cell.bind d = .ok v) (htext : ∀ s, d ≠ .text s)
    (hbytes : ∀ b, d ≠ .bytes b) : v.Numeric := by
  cases d with
  | null => cases hbind; exact .null
  | bool b => cases hbind; exact .int _
  | int i =>
    rw [Cell.bind] at hbind
    split at hbind
    · cases hbind
      exact .int i
    · cases hbind
  | real x =>
    cases hbind
    cases x.isNaN
    · exact .real x
    · exact .null
  | text s => exact absurd rfl (htext s)
  | bytes b => exact absurd rfl (hbytes b)
  | broken points => cases hbind
  | list items => cases hbind
  | dict entries => cases hbind

/-- What a value that suits a column turns into there is what the column holds. -/
theorem holds_store {a : Affinity} {d : Datum} {v : Cell} (hsuits : a.suits d = true)
    (hbind : Cell.bind d = .ok v) : a.Holds (a.store v) := by
  cases a with
  | text =>
    refine toText_textual ?_
    rintro b rfl
    cases d with
    | bytes b => cases hsuits
    | int i =>
      rw [Cell.bind] at hbind
      split at hbind <;> cases hbind
    | real x =>
      rw [Cell.bind] at hbind
      cases hnan : x.isNaN <;> rw [hnan] at hbind <;> cases hbind
    | _ => cases hbind
  | integer =>
    exact toNumeric_numeric (bind_numeric hbind (by rintro s rfl; cases hsuits)
      (by rintro b rfl; cases hsuits))
  | real =>
    exact store_real_numeric (bind_numeric hbind (by rintro s rfl; cases hsuits)
      (by rintro b rfl; cases hsuits))
  | numeric => cases d <;> cases hsuits
  | anything => trivial

end Affinity

/-! ## Rows -/

/-- Every column of a row holds what it should. -/
def Row.Holds (l : Layout) (row : Row) : Prop :=
  ∀ col ∈ l.columns, col.affinity.Holds (row.cell col.name)

/-- Values suit the columns that they are for; those that name rows of other tables need not, since the
rules of the table see to it that they do. -/
def Suiting (l : Layout) (values : Record) : Prop :=
  ∀ entry ∈ values, entry.1 ∈ l.parents.map (·.1) ∨
    (l.affinity (.column entry.1)).suits entry.2 = true

/-- The invariant of what columns hold. -/
def Database.Holds (db : Database) : Prop :=
  ∀ l ∈ Layout.standard, ∀ row ∈ db.rows l.name, row.Holds l

theorem holds_fresh : Database.fresh.Holds := fun l hl row hrow => by
  rw [rows_fresh hl] at hrow
  exact nomatch hrow

/-- The instants are those of creation. -/
theorem numeric_iff {l : Layout} (hl : l ∈ Layout.standard) {col : Column} (hcol : col ∈ l.columns) :
    col.affinity = .numeric ↔ col.name = "created_at" := by
  revert l col
  decide

/-- A default is what its column holds, but for instants, which have none. -/
theorem holds_default {l : Layout} (hl : l ∈ Layout.standard) {col : Column} (hcol : col ∈ l.columns)
    (hne : col.affinity ≠ .numeric) : col.affinity.Holds col.default := by
  have hall : ∀ l ∈ Layout.standard, ∀ col ∈ l.columns, col.affinity ≠ .anything ∧
      (match col.default with
        | .null => True
        | .int _ => col.affinity = .integer
        | .text _ => col.affinity = .text
        | _ => False) := by
    simp [Layout.standard, Layout.users, Layout.schools, Layout.courses, Layout.reviews, Layout.must,
      Layout.may]
  obtain ⟨_, hdefault⟩ := hall l hl col hcol
  generalize col.affinity = a at hne hdefault ⊢
  generalize col.default = cell at hdefault ⊢
  cases cell with
  | null =>
    cases a with
    | text => exact .null
    | integer => exact .null
    | real => exact .null
    | numeric => exact absurd rfl hne
    | anything => trivial
  | int i => cases hdefault; exact .int i
  | text s => cases hdefault; exact .text s
  | real x => exact hdefault.elim
  | blob b => exact hdefault.elim

end SchoolCatalog.Store
