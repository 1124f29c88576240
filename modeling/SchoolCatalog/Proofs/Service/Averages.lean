import SchoolCatalog.Proofs.Service.Ensures
import SchoolCatalog.Proofs.Store.Accepting
import SchoolCatalog.Proofs.Store.Cascade
import SchoolCatalog.Proofs.Store.Contents
import SchoolCatalog.Proofs.Store.Finding

/-!
# Refreshing averages

What recomputing an average does to a sound database. The average is a function of the values of the
courses or reviews that name the school; recomputing writes it to the school, if there is one and it can
be stored, and changes nothing else; a write may get lost. Several recomputations, one after the other, write each due average
from the same values.

Results:
1. `ensures_compute`: what is computed is the mean of the values of exactly the school's dependents.
2. `ensures_recompute`: recomputing writes one average of one school at most, and never fails; it
   refreshes the average if no update gets lost.
3. `Recomputed.trans`, `ensures_recomputeAll`: recomputing one average after the other.
-/

namespace SchoolCatalog

open Store Service

namespace Aggregate

/-- The layout of the courses or reviews. -/
def layout : Aggregate → Layout
  | cost => .courses
  | rating => .reviews

/-- The column of schools that keeps the average. -/
def column : Aggregate → Column
  | cost => Layout.may "average_cost" .integer
  | rating => Layout.may "average_rating" .real

theorem kept_dependents (a : Aggregate) : Kept a.dependents a.layout := by
  cases a
  · exact .courses
  · exact .reviews

theorem layout_ne_schools (a : Aggregate) : a.layout.name ≠ "schools" := by cases a <;> decide

theorem column_name (a : Aggregate) : a.column.name = a.targetField := by cases a <;> rfl

theorem column_mem (a : Aggregate) : a.column ∈ Layout.schools.columns := by
  cases a <;> simp [column, Layout.schools, Layout.may, Layout.must]

theorem column_optional (a : Aggregate) : a.column.required = false := by cases a <;> rfl

theorem column_free (a : Aggregate) : Layout.schools.IsFree a.column := by
  cases a <;> exact ⟨rfl, by decide, by decide⟩

theorem targetField_ne (a : Aggregate) : a.targetField ≠ "created_at" := by cases a <;> decide

theorem targetField_injective {a b : Aggregate} (h : a.targetField = b.targetField) : a = b := by
  cases a <;> cases b <;> first | rfl | exact absurd h (by decide)

/-! ## Values and averages -/

variable {db after : Database} {a : Aggregate} {s : Int}

/-- The courses or reviews of a school. -/
def dependentsOf (a : Aggregate) (db : Database) (s : Int) : List Row :=
  (db.rows a.layout.name).filter fun row => row.cell "school_id" = .int s

/-- The values that a school's average is the mean of. -/
def valuesOf (a : Aggregate) (db : Database) (s : Int) : List Datum :=
  (a.dependentsOf db s).map fun row => (row.cell a.valueField).toDatum

/-- What is made of the mean of values, if there are any: the value that is to be stored. -/
def average (a : Aggregate) (values : List Datum) : Except Failure (Option Datum) := do
  match ← meanOf values with
  | none => return none
  | some mean => some <$> a.finish mean

/-- The cell that an average is stored as, none if there is no average or it cannot be stored. -/
def kept? (a : Aggregate) (values : List Datum) : Option Cell :=
  match a.average values with
  | .ok (some d) => (Cell.bind d).toOption.map a.column.affinity.store
  | _ => none

theorem isKey_school (a : Aggregate) : IsKey a.dependents a.layout "school_id" := by
  refine ⟨?_, .inr ⟨"schools", ?_⟩⟩
  · cases a <;> decide
  · cases a <;> decide

theorem value_required (a : Aggregate) :
    ∃ col ∈ a.layout.columns, col.name = a.valueField ∧ col.required = true := by
  cases a <;> decide

theorem columns_value (a : Aggregate) :
    columns a.dependents (some [a.valueField]) false = ["id", a.valueField] := by
  cases a <;> decide

theorem shown_value (a : Aggregate) (cell : Cell) : shown a.dependents a.valueField cell = cell.toDatum := by
  cases a <;> rfl

theorem isNull_toDatum (cell : Cell) : cell.toDatum.isNull = cell.isNull := by cases cell <;> rfl

/-- The records that an average is computed from are those of exactly the school's dependents. -/
theorem found_dependents (h : db.Sound) (a : Aggregate) {school : Datum} (hs : school.Denotes s) :
    ∃ records, db.found a.dependents
        { conditions := [⟨"school_id", .eq, school⟩], projection := some [a.valueField] } =
          .ok records ∧
      ((records.map fun r => Record.field r a.valueField).filter fun d => !d.isNull) =
        a.valuesOf db s := by
  have k := a.kept_dependents
  obtain ⟨v, hv, hadapt⟩ := hs
  have hfound := found_by_key h k a.isKey_school school (some [a.valueField]) bindWindow_none
  rw [hv] at hfound
  refine ⟨_, hfound, ?_⟩
  have hrows : (db.rows a.layout.name).filter (keyed a.layout "school_id" v) = a.dependentsOf db s := by
    refine List.filter_congr fun row hrow => ?_
    rw [Bool.eq_iff_iff, keyed, holds_key h k a.isKey_school hv hrow, decide_eq_true_iff]
    constructor
    · rintro ⟨i, hread, hi⟩
      rw [hi.unique ⟨v, hv, hadapt⟩] at hread
      exact hread
    · exact fun hread => ⟨s, hread, v, hv, hadapt⟩
  have hfield : ∀ row, Record.field (recordOf a.dependents
      (a.layout.shown (columns a.dependents (some [a.valueField]) false)) row) a.valueField =
        (row.cell a.valueField).toDatum := by
    intro row
    obtain ⟨hnodup, _, hdeclared⟩ := columns_spec k (some [a.valueField]) false
    rw [field_recordOf k hnodup hdeclared row (by rw [columns_value]; simp), shown_value]
    cases a <;> rfl
  show ((List.map _ (List.map _ ((db.rows a.layout.name).filter (keyed a.layout "school_id" v)))).filter
    _) = _
  rw [hrows, List.map_map, valuesOf]
  -- no value is left out, as none is null
  refine (List.filter_eq_self.2 fun d hd => ?_).trans (List.map_congr_left fun row _ => hfield row)
  obtain ⟨row, hrow, rfl⟩ := List.mem_map.1 hd
  obtain ⟨col, hcol, hname, hrequired⟩ := a.value_required
  have hnull := (h.fits a.layout k.mem_standard row (List.mem_filter.1 hrow).1).required col hcol
    hrequired
  rw [Function.comp_apply, hfield row, isNull_toDatum, ← hname, hnull]
  rfl

/-- What is computed is the average of the values of exactly the school's dependents. -/
theorem ensures_compute {around : Surroundings} (h : db.Sound) (a : Aggregate) {school : Datum}
    (hs : school.Denotes s) :
    Ensures around db (a.compute school {}) fun result after =>
      after = db ∧ result = a.average (a.valuesOf db s) := by
  obtain ⟨records, hfound, hvalues⟩ := found_dependents h a hs
  unfold compute
  refine (ensures_find _).bind ?_ ?_
  · rintro found db ⟨hfound', rfl⟩
    obtain rfl := Except.ok.inj (hfound'.trans hfound)
    dsimp only
    rw [hvalues, average]
    have hmean : Ensures around db (Service.ofExcept (meanOf (a.valuesOf db s))) fun result after =>
        after = db ∧ result = meanOf (a.valuesOf db s) :=
      Ensures.ofExcept ⟨rfl, rfl⟩
    refine hmean.bind ?_ ?_
    · rintro mean _ ⟨rfl, hresult⟩
      rw [← hresult]
      cases mean with
      | none => exact Ensures.pure ⟨rfl, rfl⟩
      | some mean => exact Ensures.map (Ensures.ofExcept ⟨rfl, rfl⟩)
    · rintro failure _ ⟨rfl, hresult⟩
      rw [← hresult]
      exact ⟨rfl, rfl⟩
  · rintro failure _ ⟨hfailure, rfl⟩
    exact nomatch hfailure.trans hfound

end Aggregate

/-! ## Refreshing -/

namespace Store.Database

variable {db mid after : Database} {due later : Aggregate → Int → Prop} {a : Aggregate} {s : Int}

/-- A database after some averages of schools were refreshed: each average that was due is that of the
same values, as far as there is one and it can be stored, and nothing else changed. -/
structure Refreshed (db after : Database) (due : Aggregate → Int → Prop) : Prop where
  sound : after.Sound
  others : ∀ l ∈ Layout.standard, l.name ≠ "schools" → after.rows l.name = db.rows l.name
  schools : ∀ school ∈ after.rows "schools", ∃ before ∈ db.rows "schools", before.id = school.id ∧
    ∀ a : Aggregate,
      school.cell a.targetField =
          (a.kept? (a.valuesOf db school.id)).getD (before.cell a.targetField) ∨
        ¬ due a school.id ∧ school.cell a.targetField = before.cell a.targetField

theorem Refreshed.refl (h : db.Sound)
    (hdue : ∀ school ∈ db.rows "schools", ∀ a : Aggregate, due a school.id →
      a.kept? (a.valuesOf db school.id) = none) : db.Refreshed db due where
  sound := h
  others _ _ _ := rfl
  schools school hschool := by
    refine ⟨school, hschool, rfl, fun a => ?_⟩
    by_cases h : due a school.id
    · exact .inl (by rw [hdue school hschool a h, Option.getD_none])
    · exact .inr ⟨h, rfl⟩

theorem Refreshed.valuesOf_eq (h : db.Refreshed after due) (a : Aggregate) (s : Int) :
    a.valuesOf after s = a.valuesOf db s := by
  rw [Aggregate.valuesOf, Aggregate.dependentsOf,
    h.others _ a.kept_dependents.mem_standard a.layout_ne_schools]
  rfl

/-- Averages that are refreshed one after the other are all refreshed. -/
theorem Refreshed.trans (h : db.Refreshed mid due) (h' : mid.Refreshed after later) :
    db.Refreshed after fun a s => due a s ∨ later a s where
  sound := h'.sound
  others l hl hne := (h'.others l hl hne).trans (h.others l hl hne)
  schools school hschool := by
    obtain ⟨between, hbetween, hid, hlater⟩ := h'.schools school hschool
    obtain ⟨before, hbefore, hid', hdue⟩ := h.schools between hbetween
    refine ⟨before, hbefore, hid'.trans hid, fun a => ?_⟩
    have hlater := hlater a
    have hdue := hdue a
    rw [h.valuesOf_eq] at hlater
    rw [hid] at hdue
    rcases hlater with hnew | ⟨hnot, hold⟩
    · left
      rw [hnew]
      -- what was refreshed is refreshed once more, from the same values
      rcases hdue with hcell | ⟨_, hcell⟩
      · rw [hcell]
        cases a.kept? (a.valuesOf db school.id) <;> rfl
      · rw [hcell]
    · rcases hdue with hcell | ⟨hnot', hcell⟩
      · exact .inl (hold.trans hcell)
      · exact .inr ⟨not_or.2 ⟨hnot', hnot⟩, hold.trans hcell⟩

theorem Refreshed.weaken (h : db.Refreshed after due)
    (hdue : ∀ school ∈ db.rows "schools", ∀ a : Aggregate, later a school.id → due a school.id) :
    db.Refreshed after later where
  sound := h.sound
  others := h.others
  schools school hschool := by
    obtain ⟨before, hbefore, hid, hcells⟩ := h.schools school hschool
    refine ⟨before, hbefore, hid, fun a => (hcells a).imp_right fun hcell => ⟨fun hlater => ?_, hcell.2⟩⟩
    exact hcell.1 (hid ▸ hdue before hbefore a (hid.symm ▸ hlater))

/-- A database after some averages of schools were written: nothing but the averages that were due may
have changed, and those are numbers. -/
structure Averaged (db after : Database) (due : Aggregate → Int → Prop) : Prop where
  sound : after.Sound
  others : ∀ l ∈ Layout.standard, l.name ≠ "schools" → after.rows l.name = db.rows l.name
  handedOut : ∀ name, after.greatestHandedOut name = db.greatestHandedOut name
  ids : (after.rows "schools").map (·.id) = (db.rows "schools").map (·.id)
  schools : ∀ school ∈ db.rows "schools", ∃ now ∈ after.rows "schools", now.id = school.id ∧
    ∀ col ∈ Layout.schools.columns, now.cell col.name = school.cell col.name ∨
      ∃ a : Aggregate, due a school.id ∧ col.name = a.targetField ∧ (now.cell col.name).Numeric

theorem Averaged.refl (h : db.Sound) (due : Aggregate → Int → Prop) : db.Averaged db due where
  sound := h
  others _ _ _ := rfl
  handedOut _ := rfl
  ids := rfl
  schools school hschool := ⟨school, hschool, rfl, fun _ _ => .inl rfl⟩

theorem Averaged.trans (h : db.Averaged mid due) (h' : mid.Averaged after later) :
    db.Averaged after fun a s => due a s ∨ later a s where
  sound := h'.sound
  others l hl hne := (h'.others l hl hne).trans (h.others l hl hne)
  handedOut name := (h'.handedOut name).trans (h.handedOut name)
  ids := h'.ids.trans h.ids
  schools school hschool := by
    obtain ⟨between, hbetween, hid, hcells⟩ := h.schools school hschool
    obtain ⟨now, hnow, hid', hcells'⟩ := h'.schools between hbetween
    refine ⟨now, hnow, hid'.trans hid, fun col hcol => ?_⟩
    rcases hcells' col hcol with hsame | ⟨a, hdue, hname, hnumeric⟩
    · rcases hcells col hcol with hsame' | ⟨a, hdue, hname, hnumeric⟩
      · exact .inl (hsame.trans hsame')
      · exact .inr ⟨a, .inl hdue, hname, hsame ▸ hnumeric⟩
    · exact .inr ⟨a, .inr (hid ▸ hdue), hname, hnumeric⟩

theorem Averaged.weaken (h : db.Averaged after due) (hdue : ∀ a s, due a s → later a s) :
    db.Averaged after later where
  sound := h.sound
  others := h.others
  handedOut := h.handedOut
  ids := h.ids
  schools school hschool := by
    obtain ⟨now, hnow, hid, hcells⟩ := h.schools school hschool
    exact ⟨now, hnow, hid, fun col hcol => (hcells col hcol).imp_right
      fun ⟨a, h, hname⟩ => ⟨a, hdue a _ h, hname⟩⟩

theorem column_numeric (a : Aggregate) (cell : Cell) : a.column.affinity.Holds cell ↔ cell.Numeric := by
  cases a <;> rfl

/-- Averages that are written are what their columns hold. -/
theorem Averaged.holds (hholds : db.Holds) (ha : db.Averaged after due) :
    after.Holds := by
  intro l hl row hrow
  by_cases hname : l.name = "schools"
  · obtain rfl : l = .schools := eq_of_name_eq hl Kept.schools.mem_standard hname
    have hid : row.id ∈ (db.rows "schools").map (·.id) := ha.ids ▸ List.mem_map_of_mem hrow
    obtain ⟨school, hschool, hsame⟩ := List.mem_map.1 hid
    obtain ⟨now, hnow, hnowId, hcells⟩ := ha.schools school hschool
    obtain rfl := ha.sound.eq_of_id hl hnow hrow (hnowId.trans hsame)
    intro col hcol
    rcases hcells col hcol with hcell | ⟨a, _, htarget, hnumeric⟩
    · exact hcell ▸ hholds _ hl school hschool col hcol
    · obtain rfl : col = a.column :=
        eq_of_mark_eq Kept.schools.columns_nodup hcol a.column_mem (htarget.trans a.column_name.symm)
      exact (column_numeric a _).2 hnumeric
  · exact hholds l hl row (ha.others l hl hname ▸ hrow)

/-- What recomputing makes of a database: it writes nothing but the averages that are due, and refreshes
these if no update gets lost. -/
structure Recomputed (around : Surroundings) (db after : Database) (due : Aggregate → Int → Prop) :
    Prop where
  averaged : db.Averaged after due
  refreshed : around.losesUpdates = false → db.Refreshed after due

section Recomputed

variable {around : Surroundings}

theorem Recomputed.trans (h : Recomputed around db mid due) (h' : Recomputed around mid after later) :
    Recomputed around db after fun a s => due a s ∨ later a s where
  averaged := h.averaged.trans h'.averaged
  refreshed working := (h.refreshed working).trans (h'.refreshed working)

/-- It is enough that the averages which are due are those of schools that are there. -/
theorem Recomputed.weaken (h : Recomputed around db after due) (hforth : ∀ a s, due a s → later a s)
    (hback : ∀ school ∈ db.rows "schools", ∀ a : Aggregate, later a school.id → due a school.id) :
    Recomputed around db after later where
  averaged := h.averaged.weaken hforth
  refreshed working := (h.refreshed working).weaken hback

/-- Nothing has to be recomputed if nothing is due. -/
theorem Recomputed.none (h : db.Sound) (hdue : ∀ a s, ¬ due a s) : Recomputed around db db due where
  averaged := .refl h _
  refreshed _ := .refl h fun _ _ a hlater => absurd hlater (hdue a _)

end Recomputed

/-- The one average of one school. -/
def only (a : Aggregate) (s : Int) : Aggregate → Int → Prop := fun b t => b = a ∧ t = s

theorem writable_average (a : Aggregate) (d : Datum) :
    writable .schools [(a.targetField, d)] = [(a.targetField, d)] := by
  cases a <;> rfl

theorem forColumns_average (a : Aggregate) (d : Datum) :
    ForColumns .schools [(a.targetField, d)] :=
  writable_average a d ▸ forColumns_writable .schools _

/-- Writing an average that finds a school refreshes its average. -/
theorem refreshed_amended (h : db.Sound) {d : Datum}
    (hd : a.average (a.valuesOf db s) = .ok (some d)) {old row : Row}
    (hold : old ∈ db.rows "schools") (hs : old.id = s) (hid : row.id = old.id)
    (hsound : (db.amended .schools row).Sound)
    (hwritten : ∀ col ∈ Layout.schools.columns,
      Written [(a.targetField, d)] col (old.cell col.name) (row.cell col.name)) :
    db.Refreshed (db.amended .schools row) (only a s) where
  sound := hsound
  others l hl hne := by
    rw [rows_amended h Kept.schools.mem_standard row hl]
    exact if_neg hne
  schools school hschool := by
    rcases mem_amended h Kept.schools.mem_standard Kept.schools.mem_standard hschool with
      ⟨hschool, hne⟩ | ⟨_, rfl⟩
    · have hne : school.id ≠ s := fun heq => hne rfl (by rw [heq, hid, hs])
      exact ⟨school, hschool, rfl, fun b => .inr ⟨fun hdue => hne hdue.2, rfl⟩⟩
    · refine ⟨old, hold, hid.symm, fun b => ?_⟩
      rw [hid, hs]
      have hcell := hwritten b.column b.column_mem
      rw [b.column_name] at hcell
      rcases hcell with ⟨d', v, hmem, hbind, hcell⟩ | ⟨hnot, hcell⟩
      · obtain ⟨hname, rfl⟩ := Prod.mk.inj (List.mem_singleton.1 hmem)
        obtain rfl := Aggregate.targetField_injective (b.column_name.symm.trans hname)
        left
        rw [hcell, Aggregate.kept?, hd]
        dsimp only
        rw [hbind]
        rfl
      · refine .inr ⟨fun hdue => ?_, hcell⟩
        obtain rfl := hdue.1
        exact hnot d (List.mem_singleton.2 (by rw [b.column_name]))

/-- An average is a number. -/
theorem suits_average {values : List Datum} {d : Datum} (hd : a.average values = .ok (some d)) :
    a.column.affinity.suits d = true := by
  unfold Aggregate.average at hd
  cases hmean : Aggregate.meanOf values with
  | error failure =>
    rw [hmean] at hd
    exact nomatch hd
  | ok mean =>
    rw [hmean] at hd
    cases mean with
    | none => exact nomatch hd
    | some mean =>
      replace hd : some <$> a.finish mean = .ok (some d) := hd
      cases a with
      | rating => cases hd; rfl
      | cost =>
        rw [Aggregate.finish] at hd
        cases hceil : mean.ceilToTen with
        | error fault => rw [hceil] at hd; exact nomatch hd
        | ok k => rw [hceil] at hd; cases hd; rfl

/-- Writing an average that finds a school changes nothing else. -/
theorem averaged_amended (h : db.Sound) {d : Datum} (hd : a.column.affinity.suits d = true)
    {old row : Row} (hold : old ∈ db.rows "schools") (hs : old.id = s) (hid : row.id = old.id) (hsound : (db.amended .schools row).Sound)
    (hwritten : ∀ col ∈ Layout.schools.columns,
      Written [(a.targetField, d)] col (old.cell col.name) (row.cell col.name)) :
    db.Averaged (db.amended .schools row) (only a s) where
  sound := hsound
  others l hl hne := by
    rw [rows_amended h Kept.schools.mem_standard row hl]
    exact if_neg hne
  handedOut _ := rfl
  ids := by
    have hrows := rows_amended h Kept.schools.mem_standard row Kept.schools.mem_standard
    rw [if_pos rfl] at hrows
    rw [show (db.amended .schools row).rows "schools" = _ from hrows, List.map_map]
    refine List.map_congr_left fun school _ => ?_
    show (if school.id = row.id then row else school).id = school.id
    split
    next hsame => exact hsame.symm
    next => rfl
  schools school hschool := by
    have hrows := rows_amended h Kept.schools.mem_standard row Kept.schools.mem_standard
    rw [if_pos rfl] at hrows
    have hmem : (if school.id = row.id then row else school) ∈
        (db.amended .schools row).rows "schools" := by
      rw [show (db.amended .schools row).rows "schools" = _ from hrows]
      exact List.mem_map_of_mem hschool
    split at hmem
    next hsame =>
      obtain rfl := h.eq_of_id Kept.schools.mem_standard hschool hold (hsame.trans hid)
      refine ⟨row, hmem, hid, fun col hcol => ?_⟩
      rcases hwritten col hcol with ⟨d', v, hmem, hbind, hcell⟩ | ⟨_, hcell⟩
      · obtain ⟨htarget, rfl⟩ := Prod.mk.inj (List.mem_singleton.1 hmem)
        obtain rfl : col = a.column :=
          eq_of_mark_eq Kept.schools.columns_nodup hcol a.column_mem
            (htarget.trans a.column_name.symm)
        have hnumeric := (column_numeric a _).1 (Affinity.holds_store hd hbind)
        exact .inr ⟨a, ⟨rfl, hs⟩, htarget, hcell ▸ hnumeric⟩
      · exact .inl hcell
    next => exact ⟨school, hmem, rfl, fun _ _ => .inl rfl⟩

theorem averaged_of_update (h : db.Sound) {school : Datum} (hs : school.Denotes s) {d : Datum}
    (hd : a.column.affinity.suits d = true) {found : Bool} (hupdate : db.update .schools school [(a.targetField, d)] = .ok (after, found)) :
    db.Averaged after (only a s) := by
  rcases update_spec h .schools (forColumns_average a d) hupdate with
    ⟨_, rfl, _⟩ | ⟨_, old, hold, row, hdenotes, hid, rfl, hsound, hwritten⟩
  · exact Averaged.refl h _
  · exact averaged_amended h hd hold (hdenotes.unique hs) hid hsound hwritten

/-- Writing an average refreshes it. -/
theorem refreshed_of_update (h : db.Sound) {school : Datum} (hs : school.Denotes s) {d : Datum}
    (hd : a.average (a.valuesOf db s) = .ok (some d)) {found : Bool}
    (hupdate : db.update .schools school [(a.targetField, d)] = .ok (after, found)) :
    db.Refreshed after (only a s) := by
  rcases update_spec h .schools (forColumns_average a d) hupdate with
    ⟨_, rfl, hnone⟩ | ⟨_, old, hold, row, hdenotes, hid, rfl, hsound, hwritten⟩
  · refine Refreshed.refl h fun old hold b hdue => ?_
    exact absurd (hdue.2 ▸ hs) (hnone old hold)
  · exact refreshed_amended h hd hold (hdenotes.unique hs) hid hsound hwritten

/-- If writing an average is refused, then because it cannot be stored. -/
theorem refreshed_of_refused (h : db.Sound) {school : Datum} (hs : school.Denotes s) {d : Datum}
    (hd : a.average (a.valuesOf db s) = .ok (some d)) {failure : Failure}
    (hupdate : db.update .schools school [(a.targetField, d)] = .error failure) :
    db.Refreshed db (only a s) := by
  refine Refreshed.refl h fun old hold b hdue => ?_
  obtain ⟨rfl, hid⟩ := hdue
  rw [hid, Aggregate.kept?, hd]
  dsimp only
  cases hbind : Cell.bind d with
  | error fault => rfl
  | ok v =>
    obtain ⟨row, _, _, _, hok⟩ := update_free h .schools b.column_mem b.column_free hold
      (hid.symm ▸ hs) hbind fun hrequired => nomatch b.column_optional.symm.trans hrequired
    rw [b.column_name, hupdate] at hok
    exact nomatch hok

end Store.Database

namespace Aggregate

open Store.Database

variable {around : Surroundings} {db : Database} {a : Aggregate} {s : Int} {school : Datum}

theorem kept?_of_average {values : List Datum} (h : ∀ d, a.average values ≠ .ok (some d)) :
    a.kept? values = none := by
  rw [kept?]
  split
  next d hd => exact absurd hd (h d)
  next => rfl

theorem ensures_refresh (h : db.Sound) (hs : school.Denotes s) :
    Ensures around db (a.refresh school {}) fun _ after => Recomputed around db after (only a s) := by
  have hsame (hnone : ∀ d, a.average (a.valuesOf db s) ≠ .ok (some d)) :
      Recomputed around db db (only a s) := by
    refine ⟨Averaged.refl h _, fun _ => Refreshed.refl h fun row _ b hdue => ?_⟩
    rw [hdue.1, hdue.2, kept?_of_average hnone]
  unfold refresh
  refine (ensures_compute h a hs).bind ?_ ?_
  · rintro result db ⟨rfl, hresult⟩
    cases result with
    | none =>
      refine (spares_log lasting_database _ _).ensures fun _ => hsame fun d hd => ?_
      exact nomatch hresult.trans hd
    | some d =>
      have hwritten : Ensures around db (({} : Store).update .schools school [(a.targetField, d)])
          fun _ after => Recomputed around db after (only a s) := by
        refine (ensures_update school _).weaken fun result after hafter => ?_
        rw [writable_average] at hafter
        rcases hafter with ⟨hlost, rfl, _⟩ | ⟨hempty, _, _⟩ | ⟨failure, herror, rfl, _⟩ |
          ⟨found, hok, _⟩
        · exact ⟨Averaged.refl h _, fun working => nomatch hlost.symm.trans working⟩
        · exact nomatch hempty
        · exact ⟨Averaged.refl h _, fun _ => refreshed_of_refused h hs hresult.symm herror⟩
        · exact ⟨averaged_of_update h hs (suits_average hresult.symm) hok, fun _ => refreshed_of_update h hs hresult.symm hok⟩
      refine hwritten.bind ?_ fun _ _ hafter => hafter
      intro record after hafter
      cases record with
      | none => exact (spares_log lasting_database _ _).ensures fun _ => hafter
      | some _ => exact (spares_info lasting_database _).ensures fun _ => hafter
  · rintro failure db ⟨rfl, hresult⟩
    refine hsame fun d hd => ?_
    exact nomatch hresult.trans hd

/-- Recomputing writes an average, and never fails. -/
theorem ensures_recompute (h : db.Sound) (hs : school.Denotes s) :
    Ensures around db (a.recompute school {}) fun result after =>
      (∃ done, result = .ok done) ∧ Recomputed around db after (only a s) := by
  have hrefresh : Ensures around db (Service.attempt (a.refresh school {})) fun result after =>
      (∃ answer, result = .ok answer) ∧ Recomputed around db after (only a s) :=
    Ensures.attempt ((ensures_refresh h hs).weaken fun result _ hafter => ⟨⟨result, rfl⟩, hafter⟩)
  unfold recompute
  refine hrefresh.bind ?_ ?_
  · rintro answer after ⟨_, hafter⟩
    cases answer with
    | ok _ => exact Ensures.pure ⟨⟨_, rfl⟩, hafter⟩
    | error _ =>
      rintro state rfl
      exact ⟨⟨(), rfl⟩, hafter⟩
  · rintro failure after ⟨⟨answer, hanswer⟩, _⟩
    exact nomatch hanswer

/-- Recomputing an average of several schools writes it for each of them, and never fails. -/
theorem ensures_recomputeAll (h : db.Sound)
    {schools : List Int} (hschools : ∀ s ∈ schools, (Cell.int s).Proper) :
    Ensures around db (forIn schools PUnit.unit fun s _ => do
        a.recompute (.int s) {}
        pure (ForInStep.yield PUnit.unit)) fun result after =>
      (∃ done, result = .ok done) ∧ Recomputed around db after fun b s => b = a ∧ s ∈ schools := by
  induction schools generalizing db with
  | nil =>
    refine Ensures.pure ⟨⟨_, rfl⟩, Averaged.refl h _, fun _ => Refreshed.refl h fun _ _ b hdue => ?_⟩
    exact nomatch hdue.2
  | cons s rest ih =>
    rw [List.forIn_cons]
    have hproper := hschools s (List.mem_cons_self ..)
    have hfirst : Ensures around db (do
        a.recompute (.int s) {}
        pure (ForInStep.yield PUnit.unit)) fun result after =>
        result = .ok (.yield ⟨⟩) ∧ Recomputed around db after (only a s) := by
      refine (ensures_recompute h (Datum.denotes_int hproper)).bind ?_ ?_
      · rintro _ mid ⟨_, hmid⟩
        exact Ensures.pure ⟨rfl, hmid⟩
      · rintro failure mid ⟨⟨_, hdone⟩, _⟩
        exact nomatch hdone
    refine hfirst.bind ?_ ?_
    · rintro next mid ⟨hnext, hmid⟩
      obtain rfl := Except.ok.inj hnext
      refine (ih hmid.averaged.sound fun t ht => hschools t (List.mem_cons_of_mem s ht)).weaken ?_
      rintro result after ⟨hdone, hafter⟩
      have hdue (b : Aggregate) (t : Int) :
          only a s b t ∨ b = a ∧ t ∈ rest ↔ b = a ∧ t ∈ s :: rest := by
        rw [only, List.mem_cons, ← and_or_left]
      exact ⟨hdone, (hmid.trans hafter).weaken (fun b t => (hdue b t).1) fun _ _ b => (hdue b _).2⟩
    · rintro failure mid ⟨hnext, _⟩
      exact nomatch hnext

end Aggregate

end SchoolCatalog
