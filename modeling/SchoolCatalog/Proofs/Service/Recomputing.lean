import SchoolCatalog.Proofs.Service.Current
import SchoolCatalog.Proofs.Service.Isolation

/-!
# Laws of recomputing

Recomputing an average is total, local, idempotent and corrects itself. It never fails, and it touches
one average of one school, whatever goes wrong. If nothing does, it writes a value that the school's
courses or reviews alone decide: so once more changes nothing, and what the average was before does not
matter.

Results:
1. `withAverage_withAverage`, `valuesOf_withAverage`: of two averages that are written the later one
   counts, and neither is read.
2. `amended_average`: what an update makes of a database is that the school has another average.
3. `run_recompute_stored`, `run_recompute_spared`: what recomputing does, in full.
4. `recompute_laws`: the laws.
-/

namespace SchoolCatalog

open Store Store.Database

/-! ## Another average -/

namespace Store

/-- A row with another value in a column. -/
def Row.withCell (row : Row) (name : String) (cell : Cell) : Row :=
  { row with cells := row.cells.map fun entry =>
      (entry.1, if entry.1 = name then cell else entry.2) }

/-- A school with another average, if it is the school with an identity. -/
def Row.withAverage (a : Aggregate) (s : Int) (cell : Cell) (row : Row) : Row :=
  if row.id = s then row.withCell a.targetField cell else row

/-- A table in which a school has another average, if it is the table of schools. -/
def Table.withAverage (a : Aggregate) (s : Int) (cell : Cell) (t : Table) : Table :=
  { t with rows := if t.layout.name = "schools" then t.rows.map (Row.withAverage a s cell) else t.rows }

/-- A database in which a school, if it is there, has another average. -/
def Database.withAverage (db : Database) (a : Aggregate) (s : Int) (cell : Cell) : Database :=
  { db with tables := db.tables.map (Table.withAverage a s cell) }

/-- The cells of a row by their names. -/
theorem Row.cells_eq {row : Row} (hnodup : (row.cells.map (·.1)).Nodup) :
    row.cells = (row.cells.map (·.1)).map fun name => (name, row.cell name) := by
  rw [List.map_map]
  conv => lhs; rw [← List.map_id row.cells]
  refine List.map_congr_left fun entry hentry => ?_
  have hlookup := lookup_map_names (·.1) (·.2) hnodup hentry
  rw [show (row.cells.map fun a => (a.1, a.2)) = row.cells from List.map_id _] at hlookup
  show (entry.1, entry.2) = (entry.1, (row.cells.lookup entry.1).getD .null)
  rw [hlookup]
  rfl

theorem Row.withCell_withCell (row : Row) (name : String) (cell next : Cell) :
    (row.withCell name cell).withCell name next = row.withCell name next := by
  unfold withCell
  rw [List.map_map]
  refine congrArg (Row.mk row.id) (List.map_congr_left fun entry _ => ?_)
  dsimp only [Function.comp]
  split <;> rfl

/-- A row that differs from another one in one column is that row with another value there. -/
theorem Row.eq_withCell {row old : Row} {name : String} (hid : row.id = old.id)
    (hnames : row.cells.map (·.1) = old.cells.map (·.1)) (hnodup : (old.cells.map (·.1)).Nodup)
    (hcells : ∀ other ∈ old.cells.map (·.1), other ≠ name → row.cell other = old.cell other) :
    row = old.withCell name (row.cell name) := by
  have hcells : row.cells = (old.withCell name (row.cell name)).cells := by
    rw [Row.cells_eq (hnames ▸ hnodup), hnames]
    unfold withCell
    conv => rhs; rw [Row.cells_eq hnodup]
    simp only [List.map_map]
    refine List.map_congr_left fun entry hentry => ?_
    dsimp only [Function.comp]
    split
    next hsame => rw [hsame]
    next hne => rw [hcells entry.1 (List.mem_map_of_mem hentry) hne]
  exact congrArg₂ Row.mk hid hcells

/-- Of two averages that are written the later one counts. -/
theorem Row.withAverage_withAverage (a : Aggregate) (s : Int) (cell next : Cell) (row : Row) :
    (row.withAverage a s cell).withAverage a s next = row.withAverage a s next := by
  unfold withAverage
  by_cases hid : row.id = s
  · rw [if_pos hid, if_pos hid]
    exact (if_pos hid).trans (Row.withCell_withCell ..)
  · rw [if_neg hid, if_neg hid]

theorem Row.withAverage_id (a : Aggregate) (s : Int) (cell : Cell) (row : Row) :
    (row.withAverage a s cell).id = row.id := by
  unfold withAverage
  split <;> rfl

namespace Database

variable {db after : Database} {a : Aggregate} {s : Int}

theorem withAverage_withAverage (db : Database) (a : Aggregate) (s : Int) (cell next : Cell) :
    (db.withAverage a s cell).withAverage a s next = db.withAverage a s next := by
  have htables (t : Table) :
      (t.withAverage a s cell).withAverage a s next = t.withAverage a s next := by
    unfold Table.withAverage
    dsimp only
    split
    · rw [List.map_map]
      exact congrArg (Table.mk t.layout)
        (List.map_congr_left fun row _ => Row.withAverage_withAverage a s cell next row)
    · rfl
  unfold withAverage
  dsimp only
  rw [List.map_map]
  exact congrArg (fun tables => { db with tables }) (List.map_congr_left fun t _ => htables t)

theorem rows_withAverage (name : String) (cell : Cell) :
    (db.withAverage a s cell).rows name =
      if name = "schools" then (db.rows name).map (Row.withAverage a s cell) else db.rows name := by
  have htable : (db.withAverage a s cell).table? name =
      (db.table? name).map (Table.withAverage a s cell) := by
    unfold table? withAverage
    rw [List.find?_map]
    rfl
  unfold rows
  rw [htable]
  cases hfind : db.table? name with
  | none => exact (ite_self []).symm
  | some t =>
    have hname : t.layout.name = name := by simpa using List.find?_some hfind
    rw [← hname]
    rfl

/-- The values of a school's courses or reviews are no averages. -/
theorem valuesOf_withAverage (b : Aggregate) (t : Int) (cell : Cell) :
    b.valuesOf (db.withAverage a s cell) t = b.valuesOf db t := by
  rw [Aggregate.valuesOf, Aggregate.dependentsOf, rows_withAverage, if_neg b.layout_ne_schools]
  rfl

/-- A school that was amended in its average only has another average. -/
theorem amended_average (h : db.Sound) {old row : Row} (hold : old ∈ db.rows "schools")
    (hid : row.id = old.id) (hsound : (db.amended .schools row).Sound)
    (hcells : ∀ col ∈ Layout.schools.columns, col.name ≠ a.targetField →
      row.cell col.name = old.cell col.name) :
    db.amended .schools row = db.withAverage a old.id (row.cell a.targetField) := by
  have hl := Kept.schools.mem_standard
  have hfits := h.fits _ hl old hold
  have hfits' := hsound.fits _ hl row (mem_amended_self h hl hold hid)
  have hrow : row = old.withCell a.targetField (row.cell a.targetField) := by
    refine Row.eq_withCell hid (hfits'.names.trans hfits.names.symm)
      (hfits.names ▸ Kept.schools.columns_nodup) fun name hname hne => ?_
    obtain ⟨col, hcol, rfl⟩ := List.mem_map.1 (hfits.names ▸ hname)
    exact hcells col hcol hne
  unfold amended setTable withAverage
  refine congrArg (fun tables => { db with tables }) (List.map_congr_left fun t ht => ?_)
  unfold Table.withAverage
  by_cases hname : t.layout.name = "schools"
  · obtain rfl : t = ⟨.schools, db.rows "schools"⟩ :=
      h.standing.eq_of_name ht (h.standing.table_mem hl) hname
    have hschools : Layout.schools.name = "schools" := rfl
    dsimp only
    rw [if_pos hschools, if_pos rfl]
    refine congrArg (Table.mk .schools) (List.map_congr_left fun r hr => ?_)
    unfold Row.withAverage
    by_cases hsame : r.id = old.id
    · obtain rfl := h.eq_of_id hl hr hold hsame
      rw [if_pos hid.symm, if_pos rfl]
      exact hrow
    · rw [if_neg (hid ▸ hsame), if_neg hsame]
  · rw [if_neg hname]
    exact if_neg hname

/-- Writing an average gives a school another average, or there is no such school. -/
theorem withAverage_of_update (h : db.Sound) {d : Datum} {found : Bool}
    (hupdate : db.update .schools (.int s) [(a.targetField, d)] = .ok (after, found)) :
    after = db ∨ ∃ cell, after = db.withAverage a s cell := by
  rcases update_spec h .schools (forColumns_average a d) hupdate with
    ⟨_, rfl, _⟩ | ⟨_, old, hold, row, hdenotes, hid, rfl, hsound, hwritten⟩
  · exact .inl rfl
  · obtain rfl := hdenotes.eq_of_int
    refine .inr ⟨_, amended_average h hold hid hsound fun col hcol hne => ?_⟩
    rcases hwritten col hcol with ⟨_, _, hmem, _⟩ | ⟨_, hsame⟩
    · exact absurd (Prod.mk.inj (List.mem_singleton.1 hmem)).1 hne
    · exact hsame

/-- Writing an average that can be stored gives a school that is there another average. -/
theorem update_average (h : db.Sound) {old : Row} (hold : old ∈ db.rows "schools") {d : Datum}
    {v : Cell} (hbind : Cell.bind d = .ok v) :
    db.update .schools (.int old.id) [(a.targetField, d)] =
      .ok (db.withAverage a old.id (a.column.affinity.store v), true) := by
  have hid := Datum.denotes_int (h.isIdentity Kept.schools.mem_standard hold).proper
  obtain ⟨row, hrow, hcell, hcells, hok⟩ := update_free h .schools a.column_mem a.column_free hold
    hid hbind fun hrequired => nomatch a.column_optional.symm.trans hrequired
  rw [a.column_name] at hcell hcells hok
  have hsound := sound_of_update h .schools (forColumns_average a d) hok
  rw [hok, amended_average h hold hrow hsound fun col _ hne => hcells col.name hne, hcell]

end Database
end Store

/-- A state in which a school, if it is there, has another average. -/
def State.withAverage (state : State) (a : Aggregate) (s : Int) (cell : Cell) : State :=
  { state with database := state.database.withAverage a s cell }

namespace Aggregate

open Service

variable {a : Aggregate} {s : Int} {around : Surroundings} {state : State} {d : Datum} {v : Cell}

/-! ## What recomputing does -/

/-- What a kept average was made of. -/
theorem average_of_kept? {values : List Datum} {cell : Cell} (h : a.kept? values = some cell) :
    ∃ d v, a.average values = .ok (some d) ∧ Cell.bind d = .ok v ∧
      cell = a.column.affinity.store v := by
  unfold kept? at h
  split at h
  next d hd =>
    cases hbind : Cell.bind d with
    | error failure =>
      rw [hbind] at h
      exact nomatch h
    | ok v =>
      rw [hbind] at h
      exact ⟨d, v, hd, hbind, (Option.some.inj h).symm⟩
  next => exact nomatch h

theorem exists_school_of_average (h : state.database.Sound)
    (hd : a.average (a.valuesOf state.database s) = .ok (some d)) :
    ∃ school ∈ state.database.rows "schools", school.id = s := by
  by_contra habsent
  have hnone := valuesOf_of_absent (a := a) h fun school hschool hid => habsent ⟨school, hschool, hid⟩
  rw [hnone] at hd
  exact nomatch hd

theorem run_compute (h : state.database.Sound) (hs : (Cell.int s).Proper) :
    run (a.compute (.int s) {}) around state =
      (a.average (a.valuesOf state.database s), state) :=
  Prod.ext (ensures_compute h a (Datum.denotes_int hs) state rfl).2
    (quiet_compute a (.int s) {} around state)

/-- No average is computed for an identity that is none of 64 bits. -/
theorem run_compute_beyond (h : state.database.Sound) {failure : Failure}
    (hs : Cell.bind (.int s) = .error failure) :
    run (a.compute (.int s) {}) around state = (.error failure, state) := by
  have hfound : state.database.found a.dependents
      { conditions := [⟨"school_id", .eq, .int s⟩], projection := some [a.valueField] } =
        .error failure := by
    have hall := found_by_key h a.kept_dependents a.isKey_school (.int s) (some [a.valueField])
      bindWindow_none
    rw [hs] at hall
    exact hall
  unfold compute
  rw [run_bind, run_find, hfound]

theorem run_settle (school : Datum) (refresh : Service Unit) :
    run (a.settle school refresh) around state =
      match run refresh around state with
      | (.ok _, next) => (.ok (), next)
      | (.error _, next) => (.ok (), { next with log :=
          ⟨.error, "Failed to recompute " ++ a.targetField ++ " for school " ++ school.display⟩ ::
            next.log }) := by
  unfold settle
  rw [run_bind, run_attempt]
  rcases run refresh around state with ⟨_ | _, _⟩ <;> rfl

/-- Whatever a refreshment comes to, settling it gives no failure. -/
theorem run_settle_ok (school : Datum) (refresh : Service Unit) :
    (run (a.settle school refresh) around state).1 = .ok () := by
  rw [run_settle]
  rcases run refresh around state with ⟨_ | _, _⟩ <;> rfl

/-- What is logged of an average that was written. -/
def writtenLine (a : Aggregate) (s : Int) (d : Datum) : LogEntry :=
  ⟨.info, "School " ++ (Datum.int s).display ++ " " ++ a.targetField ++ " set to " ++ d.display⟩

theorem run_write_stored (h : state.database.Sound) (working : around.losesUpdates = false)
    {school : Row} (hschool : school ∈ state.database.rows "schools")
    (hbind : Cell.bind d = .ok v) :
    ∃ record, run (a.write (.int school.id) {} d) around state =
      (.ok (some record), state.withAverage a school.id (a.column.affinity.store v)) := by
  have hupdate := update_average (a := a) h hschool hbind
  have hsound := sound_of_update h .schools (forColumns_average a d) hupdate
  have hproper := (h.isIdentity Kept.schools.mem_standard hschool).proper
  -- the school is found again after the update
  have hrow : school.withAverage a school.id (a.column.affinity.store v) ∈
      (state.database.withAverage a school.id (a.column.affinity.store v)).rows "schools" := by
    rw [rows_withAverage, if_pos rfl]
    exact List.mem_map_of_mem hschool
  have hid : (Datum.int school.id).Denotes
      (school.withAverage a school.id (a.column.affinity.store v)).id :=
    (Row.withAverage_id ..).symm ▸ Datum.denotes_int hproper
  have hrecord := record?_of_denotes hsound .schools hrow hid none
  unfold write
  rw [run_update _ working, writable_average, List.isEmpty_cons, if_neg Bool.false_ne_true, hupdate]
  dsimp only
  rw [if_pos rfl, hrecord]
  exact ⟨_, rfl⟩

/-- Recomputing gives a school the average of its courses or reviews, if that can be stored. -/
theorem run_recompute_stored (h : state.database.Sound) (working : around.losesUpdates = false)
    (hd : a.average (a.valuesOf state.database s) = .ok (some d)) (hbind : Cell.bind d = .ok v) :
    run (a.recompute (.int s) {}) around state =
      (.ok (), { state.withAverage a s (a.column.affinity.store v) with
        log := a.writtenLine s d :: state.log }) := by
  obtain ⟨school, hschool, rfl⟩ := exists_school_of_average h hd
  have hproper := (h.isIdentity Kept.schools.mem_standard hschool).proper
  obtain ⟨record, hwrite⟩ := run_write_stored (a := a) h working hschool hbind
  unfold recompute refresh refreshBy
  rw [run_settle, run_bind, run_compute h hproper, hd]
  dsimp only
  rw [run_bind, hwrite]
  rfl

/-- Recomputing leaves a school as it is if there is no average that can be stored. -/
theorem run_recompute_spared (h : state.database.Sound) (working : around.losesUpdates = false)
    (hnone : a.kept? (a.valuesOf state.database s) = none) :
    ∃ entry, run (a.recompute (.int s) {}) around state =
      (.ok (), { state with log := entry :: state.log }) := by
  unfold recompute refresh refreshBy
  rw [run_settle, run_bind]
  cases hs : Cell.bind (.int s) with
  | error failure =>
    rw [run_compute_beyond h hs]
    exact ⟨_, rfl⟩
  | ok key =>
    have hproper : (Cell.int s).Proper := by
      rw [Cell.bind] at hs
      split at hs
      next hfits => exact hfits
      next => cases hs
    rw [run_compute h hproper]
    cases haverage : a.average (a.valuesOf state.database s) with
    | error failure => exact ⟨_, rfl⟩
    | ok average =>
      cases average with
      | none => exact ⟨_, rfl⟩
      | some d =>
        rw [kept?, haverage] at hnone
        dsimp only at hnone ⊢
        cases hbind : Cell.bind d with
        | ok v =>
          rw [hbind] at hnone
          cases hnone
        | error failure =>
          have hupdate := update_unbindable h .schools a.column_mem (.int s) hbind
          rw [a.column_name] at hupdate
          unfold write
          rw [run_bind, run_update _ working, writable_average, List.isEmpty_cons,
            if_neg Bool.false_ne_true, hupdate]
          exact ⟨_, rfl⟩

/-- The database after recomputing: the school has the average that its courses or reviews give. -/
theorem run_recompute (h : state.database.Sound) (working : around.losesUpdates = false) :
    ∃ entry, run (a.recompute (.int s) {}) around state =
      (.ok (), { (match a.kept? (a.valuesOf state.database s) with
        | some cell => state.withAverage a s cell
        | none => state) with log := entry :: state.log }) := by
  cases hkept : a.kept? (a.valuesOf state.database s) with
  | none => exact run_recompute_spared h working hkept
  | some cell =>
    obtain ⟨d, v, hd, hbind, rfl⟩ : ∃ d v, a.average (a.valuesOf state.database s) = .ok (some d) ∧
        Cell.bind d = .ok v ∧ cell = a.column.affinity.store v :=
      average_of_kept? hkept
    exact ⟨_, run_recompute_stored h working hd hbind⟩

/-! ## What recomputing leaves -/

end Aggregate

/-- A state that differs from another one in the log and in one average of one school at most. -/
def State.DiffersIn (after : State) (a : Aggregate) (s : Int) (before : State) : Prop :=
  ∃ db log, after = { before with database := db, log := log } ∧
    (db = before.database ∨ ∃ cell, db = before.database.withAverage a s cell)

namespace Aggregate

open Service

variable {a : Aggregate} {s : Int} {around : Surroundings} {state : State}

theorem differsIn_refl (state : State) : state.DiffersIn a s state :=
  ⟨state.database, state.log, rfl, .inl rfl⟩

theorem differsIn_log {after : State} (h : after.DiffersIn a s state) (log : List LogEntry) :
    ({ after with log } : State).DiffersIn a s state := by
  obtain ⟨db, _, rfl, hdb⟩ := h
  exact ⟨db, log, rfl, hdb⟩

/-- Writing an average changes nothing else, whether the store is within reach and keeps it or not. -/
theorem differsIn_write (h : state.database.Sound) (store : Store) (value : Datum) :
    (run (a.write (.int s) store value) around state).2.DiffersIn a s state := by
  rcases store with ⟨reachable, losesUpdates⟩
  unfold write
  by_cases hloses : (losesUpdates || around.losesUpdates) = true
  · simp only [Store.update, run_bind, run_read, hloses, if_true, run_pure]
    exact differsIn_refl state
  obtain ⟨rfl, working⟩ := Bool.or_eq_false_iff.1 (Bool.eq_false_of_not_eq_true hloses)
  cases reachable with
  | false =>
    simp only [Store.update, run_bind, run_read, working, Bool.or_false, writable_average,
      List.isEmpty_cons, Store.connect, Bool.false_eq_true, if_false, run_fail]
    exact differsIn_refl state
  | true =>
    rw [run_update _ working, writable_average, List.isEmpty_cons, if_neg Bool.false_ne_true]
    cases hupdate : state.database.update .schools (.int s) [(a.targetField, value)] with
    | error failure => exact differsIn_refl state
    | ok result => exact ⟨result.1, state.log, rfl, withAverage_of_update h hupdate⟩

/-- Refreshing changes what writing the average changes. -/
theorem differsIn_refreshBy {school : Datum} {compute : Service (Option Datum)}
    {write : Datum → Service (Option Record)} (hcompute : Quiet compute)
    (hwrite : ∀ value, (run (write value) around state).2.DiffersIn a s state) :
    (run (a.refreshBy school compute write) around state).2.DiffersIn a s state := by
  unfold refreshBy
  rw [run_quiet_bind hcompute]
  rcases (run compute around state).1 with failure | average
  · exact differsIn_refl state
  cases average with
  | none => exact differsIn_log (differsIn_refl state) _
  | some value =>
    have hvalue := hwrite value
    dsimp only
    rw [run_bind]
    generalize run (write value) around state = outcome at hvalue ⊢
    rcases outcome with ⟨failure | written, next⟩
    · exact hvalue
    · cases written with
      | none => exact differsIn_log hvalue _
      | some record => exact differsIn_log hvalue _

/-- Whatever goes wrong, refreshing an average changes nothing else. -/
theorem differsIn_amid (h : state.database.Sound) (store : Store) (mishap : Option Mishap) :
    (run (a.refreshAmid (.int s) store mishap) around state).2.DiffersIn a s state := by
  have hcompute := quiet_compute a (.int s) store
  have hwrite (value : Datum) :
      (run (a.write (.int s) store value) around state).2.DiffersIn a s state :=
    differsIn_write h store value
  rcases mishap with _ | failure | failure | failure | _
  · exact differsIn_refreshBy hcompute hwrite
  · exact differsIn_refreshBy (spares_fail failure) hwrite
  · exact differsIn_refreshBy hcompute fun _ => differsIn_refl state
  · refine differsIn_refreshBy hcompute fun value => ?_
    rw [run_bind_quiet fun _ => spares_fail failure]
    exact hwrite value
  · exact differsIn_refreshBy hcompute fun _ => differsIn_refl state

theorem differsIn_settle (school : Datum) {refresh : Service Unit}
    (h : (run refresh around state).2.DiffersIn a s state) :
    (run (a.settle school refresh) around state).2.DiffersIn a s state := by
  rw [run_settle]
  generalize run refresh around state = outcome at h ⊢
  rcases outcome with ⟨failure | _, next⟩
  · exact differsIn_log h _
  · exact h

/-- What was recomputed is recomputed to the same. -/
theorem recompute_again (h : state.database.Sound) (working : around.losesUpdates = false)
    {again : Surroundings} (workingAgain : again.losesUpdates = false) :
    let once := (run (a.recompute (.int s) {}) around state).2
    ∃ entry, run (a.recompute (.int s) {}) again once =
      (.ok (), { once with log := entry :: once.log }) := by
  obtain ⟨entry, hrun⟩ := run_recompute (a := a) (s := s) h working
  have hsound := ((settled_recompute a (.int s)).1 around state h).1
  obtain ⟨line, hagain⟩ := run_recompute (a := a) (s := s) hsound workingAgain
  refine ⟨line, hagain.trans ?_⟩
  rw [hrun]
  cases hkept : a.kept? (a.valuesOf state.database s) with
  | none =>
    dsimp only
    rw [hkept]
  | some cell =>
    dsimp only [State.withAverage]
    rw [valuesOf_withAverage, hkept]
    dsimp only [State.withAverage]
    rw [withAverage_withAverage]

/-! ## Results -/

/-- For either average, every integer and every store, recomputing gives no failure, even if any part of
it fails, the school is reported missing or the update gets lost; and on every database that keeps the
rules of its tables it changes one average of one school at most. If the store works, recomputing once
more changes nothing but the log; and if the school's courses or reviews give an average that can be
stored, what it was before makes no difference. -/
theorem recompute_laws (state : State) (a : Aggregate) (s : Int) (around : Surroundings) :
    (∀ store mishap,
      (run (a.recomputeAmid (fun _ _ => mishap) (.int s) store) around state).1 = .ok ()) ∧
    (state.database.Sound →
      (∀ store mishap,
        (run (a.recomputeAmid (fun _ _ => mishap) (.int s) store) around state).2.DiffersIn a s
          state) ∧
      (around.losesUpdates = false →
        (∀ again : Surroundings, again.losesUpdates = false →
          let once := (run (a.recompute (.int s) {}) around state).2
          ∃ entry, run (a.recompute (.int s) {}) again once =
            (.ok (), { once with log := entry :: once.log })) ∧
        ∀ cell, (state.withAverage a s cell).database.Sound →
          (a.kept? (a.valuesOf state.database s)).isSome = true →
          run (a.recompute (.int s) {}) around (state.withAverage a s cell) =
            run (a.recompute (.int s) {}) around state)) := by
  refine ⟨fun store mishap => run_settle_ok _ _, fun h => ⟨fun store mishap => ?_, fun working => ?_⟩⟩
  · exact differsIn_settle _ (differsIn_amid h store mishap)
  · refine ⟨fun again => recompute_again h working, fun cell hsound hsome => ?_⟩
    obtain ⟨kept, hkept⟩ := Option.isSome_iff_exists.1 hsome
    obtain ⟨d, v, hd, hbind, _⟩ := average_of_kept? hkept
    have hd' : a.average (a.valuesOf (state.withAverage a s cell).database s) = .ok (some d) := by
      rw [State.withAverage, valuesOf_withAverage, hd]
    rw [run_recompute_stored hsound working hd' hbind, run_recompute_stored h working hd hbind]
    unfold State.withAverage
    dsimp only
    rw [withAverage_withAverage]

/-- A school whose average was changed by hand gets back the one that its course gives. -/
theorem recompute_drifted :
    let state := Operation.runAll .fresh Operation.priced
    state.database.Sound ∧ Operation.calm.losesUpdates = false ∧
    (state.withAverage .cost 1 (.int 7)).database.Sound ∧
    (cost.kept? (cost.valuesOf state.database 1)).isSome = true ∧
    run (cost.recompute (.int 1) {}) Operation.calm (state.withAverage .cost 1 (.int 7)) =
      run (cost.recompute (.int 1) {}) Operation.calm state := by
  intro state
  have hsound : state.database.Sound := Operation.sound_run sound_fresh Operation.priced
  have hschool : ∃ school ∈ state.database.rows "schools", school.id = 1 := by decide +kernel
  have hkept : (cost.kept? (cost.valuesOf state.database 1)).isSome = true := by decide +kernel
  obtain ⟨school, hmem, hid⟩ := hschool
  have hupdate := update_average (a := cost) hsound hmem (d := .int 7) (v := .int 7) rfl
  have hdrifted := sound_of_update hsound .schools (forColumns_average cost (.int 7)) hupdate
  rw [hid] at hdrifted
  exact ⟨hsound, rfl, hdrifted, hkept,
    (((recompute_laws state cost 1 Operation.calm).2 hsound).2 rfl).2 (.int 7) hdrifted hkept⟩

end Aggregate
end SchoolCatalog
