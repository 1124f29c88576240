import SchoolCatalog.Store.Migration
import SchoolCatalog.Store.Write
import SchoolCatalog.Proofs.Store.Cell
import SchoolCatalog.Proofs.Store.Schema

/-!
# Sound databases

The invariant of the database. Its tables are those of the catalog; each row fits the rules of its
table; rows stand in the order of their identities, which were all handed out; no two rows agree where
they must differ; and whatever a row names is there.

Results:
1. `Standing.tables_eq`: a database with the tables of the catalog is known by the rows of each.
2. `violation?_eq_none_iff`: what it takes for a row to break no rule beside others.
3. `sound_fresh`: a database that was just set up is sound.
-/

namespace SchoolCatalog.Store

/-- Two rows agree in columns if none of their values is null and each equals its counterpart. -/
def Row.Agrees (columns : List String) (r s : Row) : Prop :=
  ∀ c ∈ columns, (r.cell c).isNull = false ∧ (r.cell c).compare (s.cell c) = .eq

/-- What holds of a row of a table by itself. -/
structure Row.Fits (l : Layout) (row : Row) : Prop where
  names : row.cells.map (·.1) = l.columns.map (·.name)
  kept : ∀ col ∈ l.columns, col.affinity.Keeps (row.cell col.name)
  required : ∀ col ∈ l.columns, col.required = true → (row.cell col.name).isNull = false
  checked : ∀ col ∈ l.columns, ∀ check, col.check = some check →
    check.holds (row.cell col.name) = true

namespace Database

/-- The rows of the table of a name. -/
def rows (db : Database) (name : String) : List Row := ((db.table? name).map (·.rows)).getD []

/-- The tables of a database are those of the catalog. -/
def Standing (db : Database) : Prop := db.tables.map (·.layout) = Layout.standard

/-- The invariant of the database. -/
structure Sound (db : Database) : Prop where
  standing : db.Standing
  fits : ∀ l ∈ Layout.standard, ∀ row ∈ db.rows l.name, row.Fits l
  ordered : ∀ l ∈ Layout.standard, (db.rows l.name).Pairwise (·.id < ·.id)
  numbered : ∀ l ∈ Layout.standard, ∀ row ∈ db.rows l.name,
    0 < row.id ∧ row.id ≤ db.greatestHandedOut l.name
  bounded : ∀ l ∈ Layout.standard,
    0 ≤ db.greatestHandedOut l.name ∧ db.greatestHandedOut l.name ≤ Number.greatestWord
  unique : ∀ l ∈ Layout.standard, ∀ columns ∈ l.unique, ∀ r ∈ db.rows l.name,
    ∀ s ∈ db.rows l.name, r.id ≠ s.id → ¬ r.Agrees columns s
  named : ∀ l ∈ Layout.standard, ∀ link ∈ l.parents, ∀ r ∈ db.rows l.name,
    ∃ p ∈ db.rows link.2, r.cell link.1 = .int p.id

end Database

/-! ## Tables -/

theorem standard_names_nodup : (Layout.standard.map (·.name)).Nodup := by decide

/-- A layout of the catalog is known by its name. -/
theorem eq_of_name_eq {l m : Layout} (hl : l ∈ Layout.standard) (hm : m ∈ Layout.standard)
    (h : l.name = m.name) : l = m :=
  eq_of_mark_eq standard_names_nodup hl hm h

/-- The layout that the name of a collection finds is that of its table. -/
theorem eq_of_tableName {c : Collection} {l m : Layout} (k : Kept c l) (hm : m ∈ Layout.standard)
    (h : sameName m.name (tableName c.name) = true) : m = l := by
  have hsame : ∀ m ∈ Layout.standard, sameName m.name (tableName c.name) = true →
      m.name = l.name := by
    cases k <;> decide
  exact eq_of_name_eq hm k.mem_standard (hsame m hm h)

namespace Database

variable {db : Database} {c : Collection} {l : Layout}

theorem Standing.layout_mem (h : db.Standing) {t : Table} (ht : t ∈ db.tables) :
    t.layout ∈ Layout.standard :=
  h ▸ List.mem_map_of_mem ht

theorem Standing.eq_of_name (h : db.Standing) {t u : Table} (ht : t ∈ db.tables)
    (hu : u ∈ db.tables) (hname : t.layout.name = u.layout.name) : t = u := by
  have hnodup : (db.tables.map fun t => t.layout.name).Nodup := by
    have := standard_names_nodup
    rwa [← h, List.map_map] at this
  exact eq_of_mark_eq hnodup ht hu hname

theorem Standing.table_mem (h : db.Standing) (hl : l ∈ Layout.standard) :
    ⟨l, db.rows l.name⟩ ∈ db.tables := by
  rw [← h] at hl
  obtain ⟨t, ht, rfl⟩ := List.mem_map.1 hl
  have hfind : db.table? t.layout.name = some t :=
    find?_eq_some_of_unique ht (by simp) fun u hu hname => h.eq_of_name hu ht (by simpa using hname)
  rw [rows, hfind]
  exact ht

/-- A database with the tables of the catalog is known by the rows of each. -/
theorem Standing.tables_eq (h : db.Standing) :
    db.tables = Layout.standard.map fun l => ⟨l, db.rows l.name⟩ := by
  rw [← h, List.map_map]
  conv => lhs; rw [← List.map_id db.tables]
  refine List.map_congr_left fun t ht => ?_
  exact h.eq_of_name ht (h.table_mem (h.layout_mem ht)) rfl

theorem Standing.table?_eq (h : db.Standing) (hl : l ∈ Layout.standard) :
    db.table? l.name = some ⟨l, db.rows l.name⟩ := by
  refine find?_eq_some_of_unique (h.table_mem hl) (by simp) fun u hu hname => ?_
  exact h.eq_of_name hu (h.table_mem hl) (by simpa using hname)

theorem Standing.tableNamed?_eq (h : db.Standing) (k : Kept c l) :
    tableNamed? db.tables c.name = some ⟨l, db.rows l.name⟩ := by
  have hown : sameName l.name (tableName c.name) = true := by
    cases k <;> decide
  refine find?_eq_some_of_unique (h.table_mem k.mem_standard) hown fun u hu hname => ?_
  exact h.eq_of_name hu (h.table_mem k.mem_standard)
    (congrArg Layout.name (eq_of_tableName k (h.layout_mem hu) hname))

/-- The table of a collection can be written to and read from. -/
theorem Standing.table_eq (h : db.Standing) (k : Kept c l) :
    db.table c.name = .ok ⟨l, db.rows l.name⟩ := by
  rw [table, h.tableNamed?_eq k]

theorem Standing.readableTable_eq (h : db.Standing) (k : Kept c l) :
    db.readableTable c.name = .ok ⟨l, db.rows l.name⟩ := by
  rw [readableTable, h.tableNamed?_eq k]
  rfl

theorem Standing.setTable (h : db.Standing) (hl : l ∈ Layout.standard) (rs : List Row) :
    (db.setTable ⟨l, rs⟩).Standing := by
  rw [Standing, Database.setTable, List.map_map]
  refine Eq.trans (List.map_congr_left fun t ht => ?_) h
  show (if t.layout.name = l.name then (⟨l, rs⟩ : Table) else t).layout = t.layout
  split
  next hname => exact (eq_of_name_eq (h.layout_mem ht) hl hname).symm
  next => rfl

/-- Putting rows in the place of those of one table leaves the other tables as they are. -/
theorem Standing.rows_setTable (h : db.Standing) (hl : l ∈ Layout.standard) (rs : List Row)
    {m : Layout} (hm : m ∈ Layout.standard) :
    (db.setTable ⟨l, rs⟩).rows m.name = if m.name = l.name then rs else db.rows m.name := by
  have hfind : (db.setTable ⟨l, rs⟩).table? m.name =
      some (if m.name = l.name then ⟨l, rs⟩ else ⟨m, db.rows m.name⟩) := by
    have hmem : (if m.name = l.name then (⟨l, rs⟩ : Table) else ⟨m, db.rows m.name⟩) ∈
        (db.setTable ⟨l, rs⟩).tables :=
      List.mem_map.2 ⟨_, h.table_mem hm, rfl⟩
    have hname : (if m.name = l.name then (⟨l, rs⟩ : Table) else ⟨m, db.rows m.name⟩).layout.name =
        m.name := by
      split
      next hsame => exact hsame.symm
      next => rfl
    refine find?_eq_some_of_unique hmem (by simpa using hname) fun u hu hu' => ?_
    exact (h.setTable hl rs).eq_of_name hu hmem ((by simpa using hu' : u.layout.name = m.name).trans
      hname.symm)
  rw [rows, hfind]
  split <;> rfl

/-! ## Rows and their identities -/

theorem Sound.isIdentity (h : db.Sound) (hl : l ∈ Layout.standard) {row : Row}
    (hrow : row ∈ db.rows l.name) : Cell.IsIdentity row.id :=
  have hnumber := h.numbered l hl row hrow
  ⟨hnumber.1, Int.le_trans hnumber.2 (h.bounded l hl).2⟩

theorem Sound.ids_nodup (h : db.Sound) (hl : l ∈ Layout.standard) :
    ((db.rows l.name).map (·.id)).Nodup := by
  rw [List.Nodup, List.pairwise_map]
  exact (h.ordered l hl).imp fun hlt => Int.ne_of_lt hlt

/-- A row of a table is known by its identity. -/
theorem Sound.eq_of_id (h : db.Sound) (hl : l ∈ Layout.standard) {r s : Row}
    (hr : r ∈ db.rows l.name) (hs : s ∈ db.rows l.name) (hid : r.id = s.id) : r = s :=
  eq_of_mark_eq (h.ids_nodup hl) hr hs hid

/-- A cell that names a row of another table equals an identity only if it is that integer. -/
theorem Sound.link_compare (h : db.Sound) (hl : l ∈ Layout.standard) {link : String × String}
    (hlink : link ∈ l.parents) {row : Row} (hrow : row ∈ db.rows l.name) {i : Int}
    (hi : Cell.IsIdentity i) : (row.cell link.1).compare (.int i) = .eq ↔ row.cell link.1 = .int i := by
  obtain ⟨p, hp, hcell⟩ := h.named l hl link hlink row hrow
  rw [hcell]
  constructor
  · intro heq
    have hcompare : Ord.compare p.id i = .eq := heq
    rw [Std.LawfulEqOrd.compare_eq_iff_eq] at hcompare
    rw [hcompare]
  · intro heq
    rw [heq]
    exact Cell.compare_self hi.proper

end Database

/-! ## Rules -/

theorem Row.Fits.proper {l : Layout} {row : Row} (h : row.Fits l) {col : Column}
    (hcol : col ∈ l.columns) : (row.cell col.name).Proper :=
  (h.kept col hcol).proper

/-- Rows of one table agree in columns of it either way round. -/
theorem Row.Agrees.symm {l : Layout} {columns : List String} {r s : Row} (hr : r.Fits l)
    (hs : s.Fits l) (hcolumns : ∀ c ∈ columns, c ∈ l.columns.map (·.name))
    (h : r.Agrees columns s) : s.Agrees columns r := by
  intro c hc
  obtain ⟨hnull, heq⟩ := h c hc
  obtain ⟨col, hcol, rfl⟩ := List.mem_map.1 (hcolumns c hc)
  refine ⟨(Cell.isNull_eq_of_compare heq).symm.trans hnull, ?_⟩
  rw [Cell.compare_swap (hr.proper hcol) (hs.proper hcol), heq]
  rfl

/-- A row breaks no rule beside others if its own values keep the rules of the table and it differs
from the others in identity and wherever it must. -/
theorem violation?_eq_none_iff {l : Layout} {others : List Row} {row : Row} :
    l.violation? others row = none ↔
      (∀ col ∈ l.columns, col.required = true → (row.cell col.name).isNull = false) ∧
      (∀ col ∈ l.columns, ∀ check, col.check = some check →
        check.holds (row.cell col.name) = true) ∧
      (∀ other ∈ others, other.id ≠ row.id) ∧
      ∀ columns ∈ l.unique, ∀ other ∈ others, ¬ row.Agrees columns other := by
  unfold Layout.violation? Row.Agrees
  dsimp only
  simp only [Option.orElse_eq_orElse, Option.orElse_eq_or, Option.or_eq_none_iff]
  refine and_congr ?_ (and_congr ?_ (and_congr ?_ ?_))
  · simp [List.find?_eq_none]
  · rw [List.findSome?_eq_none_iff]
    refine forall_congr' fun col => forall_congr' fun _ => ?_
    cases col.check <;> simp
  · simp
  · simp [List.find?_eq_none]

/-! ## A database that was just set up -/

theorem tables_fresh : Database.fresh.tables = Layout.standard.map fun l => ⟨l, []⟩ := rfl

theorem standing_fresh : Database.fresh.Standing := by
  rw [Database.Standing, tables_fresh, List.map_map]
  exact List.map_id _

theorem rows_fresh {l : Layout} (hl : l ∈ Layout.standard) : Database.fresh.rows l.name = [] := by
  have hmem := standing_fresh.table_mem hl
  rw [tables_fresh] at hmem
  obtain ⟨m, _, heq⟩ := List.mem_map.1 hmem
  exact (congrArg Table.rows heq).symm

/-- A database that was just set up is sound. -/
theorem sound_fresh : Database.fresh.Sound where
  standing := standing_fresh
  fits l hl row hrow := by rw [rows_fresh hl] at hrow; exact nomatch hrow
  ordered l hl := by rw [rows_fresh hl]; exact .nil
  numbered l hl row hrow := by rw [rows_fresh hl] at hrow; exact nomatch hrow
  bounded l hl := by
    show (0 : Int) ≤ 0 ∧ (0 : Int) ≤ Number.greatestWord
    decide
  unique l hl columns _ r hr := by rw [rows_fresh hl] at hr; exact nomatch hr
  named l hl link _ r hr := by rw [rows_fresh hl] at hr; exact nomatch hr

end SchoolCatalog.Store
