import SchoolCatalog.Proofs.Service.Current
import SchoolCatalog.Proofs.Service.Outcomes

/-!
# Effects of operations

All that an operation does to the database is one write, which adds a row, amends one or removes one
with all that goes with it, and then the recomputation of the averages that this makes due. What holds
after every operation is read off from that: the database stays sound, no identity is handed out twice,
rows that the write spares stay as they are but for averages that are due, and the averages are
followed.

Results:
1. `Leaves.sound`, `Leaves.id_new`: the invariant of the database, and identities.
2. `Leaves.mem_row`, `Leaves.keeps_row`, `Leaves.keeps_school`: what is there afterwards, and what stays.
3. `Leaves.follows`: an effect that is plain follows the averages.
4. `Leaves.holds`: an effect that fits keeps what columns hold.
-/

namespace SchoolCatalog

open Store Store.Database

/-- The one write of an operation. -/
inductive Effect where
  | nothing
  | add (l : Layout) (row : Row)
  | amend (l : Layout) (old row : Row)
  | remove (l : Layout) (old : Row)

namespace Effect

variable {around : Surroundings} {db mid after : Database} {effect : Effect} {c : Collection}
  {l m : Layout} {row old : Row}

/-- The database that a write makes. -/
inductive Makes (db : Database) : Effect → Database → Prop
  | nothing : Makes db nothing db
  | add {c : Collection} {l : Layout} {row : Row} : Kept c l →
      row.id = db.greatestHandedOut l.name + 1 → (db.grown l row).Sound →
      Makes db (add l row) (db.grown l row)
  | amend {c : Collection} {l : Layout} {old row : Row} : Kept c l → old ∈ db.rows l.name →
      row.id = old.id → (db.amended l row).Sound → Makes db (amend l old row) (db.amended l row)
  | remove {c : Collection} {l : Layout} {old : Row} {mid : Database} : Kept c l →
      old ∈ db.rows l.name → Deleted db l.name old.id mid → Makes db (remove l old) mid

/-- The averages that are due after a write. -/
def due (db : Database) : Effect → Aggregate → Int → Prop
  | nothing, _, _ => False
  | add l row, a, s => dueFor l row a s
  | amend l _ row, a, s => dueFor l row a s
  | remove l old, a, s => dueForDeletion db l.name old.id a s

/-- What an effect leaves: its write, and the averages recomputed that are due then. -/
def Leaves (around : Surroundings) (db : Database) (effect : Effect) (after : Database) : Prop :=
  ∃ mid, effect.Makes db mid ∧ Recomputed around mid after (effect.due db)

/-- Whether a write neither amends a row nor takes it out. -/
def Spares (db : Database) : Effect → Layout → Row → Prop
  | nothing, _, _ => True
  | add _ _, _, _ => True
  | amend l old _, m, row => m = l → row.id ≠ old.id
  | remove l old, m, row => ¬ Goes db l.name old.id m row

/-- Whether a write leaves it to recomputing to write averages, rates in whole numbers, and moves no
course or review to another school. -/
def Plain : Effect → Prop
  | nothing => True
  | add l row => (l = .reviews → ∃ i, row.cell "rating" = .int i) ∧
      (l = .schools → ∀ a : Aggregate, row.cell a.targetField = .null)
  | amend l old row =>
      (l = .reviews → (∃ i, row.cell "rating" = .int i) ∨ row.cell "rating" = old.cell "rating") ∧
      (∀ a : Aggregate, l = a.layout → row.cell "school_id" = old.cell "school_id") ∧
      (l = .schools → ∀ a : Aggregate, row.cell a.targetField = old.cell a.targetField)
  | remove _ _ => True

/-- Whether every column of the row that a write puts there holds what it should, if that was so before. -/
def Fits : Effect → Prop
  | nothing => True
  | add l row => row.Holds l
  | amend l old row => old.Holds l → row.Holds l
  | remove _ _ => True

/-! ## The write -/

theorem Makes.sound (h : db.Sound) (hm : effect.Makes db mid) : mid.Sound := by
  cases hm with
  | nothing => exact h
  | add _ _ hsound => exact hsound
  | amend _ _ _ hsound => exact hsound
  | remove _ _ hdeleted => exact hdeleted.sound h

/-- A row was there before, or it is the one that the write puts there. -/
theorem Makes.mem_row (h : db.Sound) (hm : effect.Makes db mid) (hmem : m ∈ Layout.standard)
    (hrow : row ∈ mid.rows m.name) :
    row ∈ db.rows m.name ∨ effect = .add m row ∨
      ∃ old ∈ db.rows m.name, row.id = old.id ∧ effect = .amend m old row := by
  cases hm with
  | nothing => exact .inl hrow
  | add k _ _ =>
    rcases mem_grown h k.mem_standard hmem hrow with hold | ⟨rfl, rfl⟩
    · exact .inl hold
    · exact .inr (.inl rfl)
  | amend k hold hid _ =>
    rcases mem_amended h k.mem_standard hmem hrow with ⟨hrow, _⟩ | ⟨rfl, rfl⟩
    · exact .inl hrow
    · exact .inr (.inr ⟨_, hold, hid, rfl⟩)
  | remove _ _ hdeleted => exact .inl ((hdeleted.mem_iff h hmem).1 hrow).1

theorem Makes.keeps_row (h : db.Sound) (hm : effect.Makes db mid) (hmem : m ∈ Layout.standard)
    (hspares : effect.Spares db m row) (hrow : row ∈ db.rows m.name) : row ∈ mid.rows m.name := by
  cases hm with
  | nothing => exact hrow
  | add k _ _ =>
    rw [rows_grown h k.mem_standard _ hmem]
    split
    next hname => exact List.mem_append_left _ (hname ▸ hrow)
    next => exact hrow
  | amend k _ hid _ =>
    rw [rows_amended h k.mem_standard _ hmem]
    split
    next hname =>
      have hne := hspares (eq_of_name_eq hmem k.mem_standard hname)
      exact List.mem_map.2 ⟨row, hname ▸ hrow, if_neg (hid ▸ hne)⟩
    next => exact hrow
  | remove _ _ hdeleted => exact (hdeleted.mem_iff h hmem).2 ⟨hrow, hspares⟩

/-- No identity is taken back. -/
theorem Makes.handedOut_le (hm : effect.Makes db mid) (name : String) :
    db.greatestHandedOut name ≤ mid.greatestHandedOut name := by
  cases hm with
  | nothing => exact Int.le_refl _
  | @add _ l row _ hnext _ =>
    rw [grown, greatestHandedOut_handOut, greatestHandedOut_setTable]
    split
    next hname =>
      rw [hname]
      exact Int.le_max_right ..
    next => exact Int.le_refl _
  | amend _ _ _ _ => exact Int.le_refl _
  | remove _ _ hdeleted => exact Int.le_of_eq (hdeleted.handedOut_eq name).symm

/-- The write touches the averages that are due after it. -/
theorem Makes.touched (h : db.Current) (hm : effect.Makes db mid) (hplain : effect.Plain) :
    db.Touched mid (effect.due db) := by
  cases hm with
  | nothing => exact h.touched _
  | add k hnext hsound => exact touched_grown h k hnext hsound hplain.1 hplain.2
  | amend k hold hid hsound =>
    obtain ⟨hrating, hstays, haverages⟩ := hplain
    refine touched_amended h k hold hid hsound ?_ hstays haverages
    rintro rfl
    rcases hrating rfl with hwhole | hsame
    · exact hwhole
    · exact hsame ▸ h.whole _ hold
  | remove _ _ hdeleted => exact touched_deleted h hdeleted

/-! ## What is left -/

theorem leaves_nothing (h : db.Sound) : nothing.Leaves around db db :=
  ⟨db, .nothing, .none h fun _ _ => id⟩

theorem Leaves.sound (hl : effect.Leaves around db after) : after.Sound :=
  hl.elim fun _ hmid => hmid.2.averaged.sound

theorem Leaves.handedOut_le (hl : effect.Leaves around db after) (name : String) :
    db.greatestHandedOut name ≤ after.greatestHandedOut name := by
  obtain ⟨mid, hm, hafter⟩ := hl
  rw [hafter.averaged.handedOut]
  exact hm.handedOut_le name

/-- Recomputing writes to schools alone. -/
theorem Leaves.rows_eq (hl : effect.Leaves around db after) :
    ∃ mid, effect.Makes db mid ∧
      ∀ m ∈ Layout.standard, m.name ≠ "schools" → after.rows m.name = mid.rows m.name :=
  hl.imp fun _ hmid => ⟨hmid.1, hmid.2.averaged.others⟩

/-- A row of any table but that of schools was there before, or the write puts it there. -/
theorem Leaves.mem_row (h : db.Sound) (hl : effect.Leaves around db after)
    (hmem : m ∈ Layout.standard) (hne : m.name ≠ "schools") (hrow : row ∈ after.rows m.name) :
    row ∈ db.rows m.name ∨ effect = .add m row ∨
      ∃ old ∈ db.rows m.name, row.id = old.id ∧ effect = .amend m old row := by
  obtain ⟨mid, hm, hrows⟩ := hl.rows_eq
  exact hm.mem_row h hmem (hrows m hmem hne ▸ hrow)

/-- A row of any table but that of schools stays as it is if the write spares it. -/
theorem Leaves.keeps_row (h : db.Sound) (hl : effect.Leaves around db after)
    (hmem : m ∈ Layout.standard) (hne : m.name ≠ "schools") (hspares : effect.Spares db m row)
    (hrow : row ∈ db.rows m.name) : row ∈ after.rows m.name := by
  obtain ⟨mid, hm, hrows⟩ := hl.rows_eq
  rw [hrows m hmem hne]
  exact hm.keeps_row h hmem hspares hrow

/-- A school that the write spares stays, as it is but for the averages that are due. -/
theorem Leaves.keeps_school (h : db.Sound) (hl : effect.Leaves around db after) {school : Row}
    (hspares : effect.Spares db .schools school) (hschool : school ∈ db.rows "schools") :
    ∃ now ∈ after.rows "schools", now.id = school.id ∧
      ∀ col ∈ Layout.schools.columns, now.cell col.name = school.cell col.name ∨
        ∃ a : Aggregate, effect.due db a school.id ∧ col.name = a.targetField := by
  obtain ⟨mid, hm, hafter⟩ := hl
  obtain ⟨now, hnow, hid, hcells⟩ :=
    hafter.averaged.schools school (hm.keeps_row h Kept.schools.mem_standard hspares hschool)
  exact ⟨now, hnow, hid, fun col hcol => (hcells col hcol).imp_right
    fun ⟨a, hdue, hname, _⟩ => ⟨a, hdue, hname⟩⟩

/-- An identity that is new in a table was never handed out before. -/
theorem Leaves.id_new (h : db.Sound) (hl : effect.Leaves around db after)
    (hmem : m ∈ Layout.standard) (hrow : row ∈ after.rows m.name) :
    (∃ before ∈ db.rows m.name, before.id = row.id) ∨ db.greatestHandedOut m.name < row.id := by
  obtain ⟨mid, hm, hafter⟩ := hl
  have hids : row.id ∈ (mid.rows m.name).map (·.id) := by
    have hid : row.id ∈ (after.rows m.name).map (·.id) := List.mem_map_of_mem hrow
    by_cases hname : m.name = "schools"
    · rw [hname] at hid ⊢
      exact hafter.averaged.ids ▸ hid
    · rwa [hafter.averaged.others m hmem hname] at hid
  obtain ⟨between, hbetween, hid⟩ := List.mem_map.1 hids
  rcases hm.mem_row h hmem hbetween with hbefore | rfl | ⟨old, hold, hsame, _⟩
  · exact .inl ⟨between, hbefore, hid⟩
  · cases hm with
    | add _ hnext _ => exact .inr (by omega)
  · exact .inl ⟨old, hold, hsame.symm.trans hid⟩

/-- What the columns of all tables hold is kept by a write that fits. -/
theorem Makes.holds (h : db.Sound) (hholds : db.Holds) (hm : effect.Makes db mid)
    (hfits : effect.Fits) : mid.Holds := by
  intro m hmem row hrow
  rcases hm.mem_row h hmem hrow with hbefore | rfl | ⟨old, hold, _, rfl⟩
  · exact hholds m hmem row hbefore
  · exact hfits
  · exact hfits (hholds m hmem old hold)

theorem Leaves.holds (h : db.Sound) (hholds : db.Holds) (hl : effect.Leaves around db after)
    (hfits : effect.Fits) : after.Holds := by
  obtain ⟨mid, hm, hafter⟩ := hl
  exact hafter.averaged.holds (hm.holds h hholds hfits)

/-- A plain effect follows the averages if no update gets lost. -/
theorem Leaves.follows (h : db.Current) (working : around.losesUpdates = false)
    (hl : effect.Leaves around db after) (hplain : effect.Plain) : db.Follows after := by
  obtain ⟨mid, hm, hafter⟩ := hl
  exact (hm.touched h hplain).follows h (hafter.refreshed working)

end Effect

end SchoolCatalog
