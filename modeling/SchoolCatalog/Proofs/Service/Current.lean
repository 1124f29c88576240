import SchoolCatalog.Proofs.Service.Averages

/-!
# Current averages

The invariant of the averages that schools hold, and what one operation does to them. An operation is
one write, which touches the values of some schools, followed by refreshing the averages of these
schools. Every school then holds the average of its values, and one without an average holds what it
held before; a new school holds nothing.

Results:
1. `touched_grown`, `touched_amended`, `touched_deleted`: whose values a write touches.
2. `Touched.follows`: a write follows the averages once all that it touched are refreshed.
3. `Follows.current`: following the averages keeps them current.
-/

namespace SchoolCatalog

open Store

/-! ## What schools hold -/

namespace Aggregate

variable {db : Database} {a : Aggregate} {s : Int}

/-- The average that a school holds, null if there is no such school. -/
def held (a : Aggregate) (db : Database) (s : Int) : Cell :=
  (((db.rows "schools").find? fun school => decide (school.id = s)).map
    (·.cell a.targetField)).getD .null

theorem held_of_mem (h : db.Sound) {school : Row} (hschool : school ∈ db.rows "schools") :
    a.held db school.id = school.cell a.targetField := by
  have hfind : (db.rows "schools").find? (fun r => decide (r.id = school.id)) = some school :=
    find?_eq_some_of_unique hschool (decide_eq_true rfl) fun r hr hid =>
      h.eq_of_id Kept.schools.mem_standard hr hschool (of_decide_eq_true hid)
  rw [held, hfind]
  rfl

theorem held_of_absent (h : ∀ school ∈ db.rows "schools", school.id ≠ s) : a.held db s = .null := by
  have hfind : (db.rows "schools").find? (fun r => decide (r.id = s)) = none :=
    List.find?_eq_none.2 fun r hr hid => h r hr (of_decide_eq_true hid)
  rw [held, hfind]
  rfl

theorem parents_dependents (a : Aggregate) :
    a.layout.parents = [("school_id", "schools"), ("user_id", "users")] := by
  cases a <;> rfl

/-- A course or review belongs to a school that is there. -/
theorem exists_school (h : db.Sound) {row : Row} (hrow : row ∈ a.dependentsOf db s) :
    ∃ school ∈ db.rows "schools", school.id = s := by
  obtain ⟨hrow, hcell⟩ := List.mem_filter.1 hrow
  have hlink : ("school_id", "schools") ∈ a.layout.parents := by
    rw [parents_dependents]
    exact List.mem_cons_self ..
  obtain ⟨school, hschool, hnamed⟩ := h.named _ a.kept_dependents.mem_standard _ hlink row hrow
  refine ⟨school, hschool, ?_⟩
  exact Cell.int.inj (hnamed.symm.trans (of_decide_eq_true hcell))

theorem valuesOf_of_absent (h : db.Sound) (habsent : ∀ school ∈ db.rows "schools", school.id ≠ s) :
    a.valuesOf db s = [] := by
  have hnone : a.dependentsOf db s = [] := by
    rw [List.eq_nil_iff_forall_not_mem]
    intro row hrow
    obtain ⟨school, hschool, hid⟩ := exists_school h hrow
    exact habsent school hschool hid
  rw [valuesOf, hnone]
  rfl

theorem kept?_nil (a : Aggregate) : a.kept? [] = none := rfl

end Aggregate

namespace Store.Database

variable {db mid after : Database} {due : Aggregate → Int → Prop} {c : Collection} {l : Layout}

/-- Every rating is a whole number. -/
def WholeRatings (db : Database) : Prop :=
  ∀ review ∈ db.rows "reviews", ∃ i, review.cell "rating" = .int i

/-- The invariant of the averages: the database is sound, and a school that has an average which can be
stored holds it. -/
structure Current (db : Database) : Prop where
  sound : db.Sound
  whole : db.WholeRatings
  current : ∀ school ∈ db.rows "schools", ∀ (a : Aggregate) (v : Cell),
    a.kept? (a.valuesOf db school.id) = some v → school.cell a.targetField = v

/-- What an operation makes of the averages: a school holds its average, and one without an average that
can be stored holds what it held before. -/
structure Follows (db after : Database) : Prop where
  sound : after.Sound
  whole : after.WholeRatings
  follows : ∀ school ∈ after.rows "schools", ∀ a : Aggregate,
    school.cell a.targetField =
      (a.kept? (a.valuesOf after school.id)).getD (a.held db school.id)

theorem current_fresh : Database.fresh.Current where
  sound := sound_fresh
  whole review hreview := by
    have hnone : Database.fresh.rows "reviews" = [] := rows_fresh Kept.reviews.mem_standard
    rw [hnone] at hreview
    exact nomatch hreview
  current school hschool := by
    have hnone : Database.fresh.rows "schools" = [] := rows_fresh Kept.schools.mem_standard
    rw [hnone] at hschool
    exact nomatch hschool

/-- Averages that are followed are current. -/
theorem Follows.current (h : db.Follows after) : after.Current where
  sound := h.sound
  whole := h.whole
  current school hschool a v hv := by
    rw [h.follows school hschool a, hv, Option.getD_some]

/-- What a school holds is its average, or it has none; this goes for schools that are not there too. -/
theorem Current.held_eq (h : db.Current) (a : Aggregate) (s : Int) :
    (a.kept? (a.valuesOf db s)).getD (a.held db s) = a.held db s := by
  by_cases hexists : ∃ school ∈ db.rows "schools", school.id = s
  · obtain ⟨school, hschool, rfl⟩ := hexists
    cases hkept : a.kept? (a.valuesOf db school.id) with
    | none => rfl
    | some v =>
      rw [a.held_of_mem h.sound hschool, h.current school hschool a v hkept]
      rfl
  · have habsent : ∀ school ∈ db.rows "schools", school.id ≠ s :=
      fun school hschool hid => hexists ⟨school, hschool, hid⟩
    rw [a.valuesOf_of_absent h.sound habsent, a.kept?_nil, Option.getD_none]

/-! ## Writing and refreshing -/

/-- What a write does to the averages: schools hold what they held before, and only those that are due
may have other values than before. -/
structure Touched (db mid : Database) (due : Aggregate → Int → Prop) : Prop where
  sound : mid.Sound
  whole : mid.WholeRatings
  held : ∀ school ∈ mid.rows "schools", ∀ a : Aggregate,
    school.cell a.targetField = a.held db school.id
  values : ∀ school ∈ mid.rows "schools", ∀ a : Aggregate, ¬ due a school.id →
    a.valuesOf mid school.id = a.valuesOf db school.id

theorem Current.touched (h : db.Current) (due : Aggregate → Int → Prop) : db.Touched db due where
  sound := h.sound
  whole := h.whole
  held _ hschool a := (a.held_of_mem h.sound hschool).symm
  values _ _ _ _ := rfl

/-- A write follows the averages once all that it touched are refreshed. -/
theorem Touched.follows (h : db.Current) (touched : db.Touched mid due)
    (refreshed : mid.Refreshed after due) : db.Follows after where
  sound := refreshed.sound
  whole := by
    have hsame := refreshed.others _ Kept.reviews.mem_standard (by decide)
    intro review hreview
    exact touched.whole review (hsame ▸ hreview)
  follows school hschool a := by
    obtain ⟨before, hbefore, hid, hcell⟩ := refreshed.schools school hschool
    have hheld := touched.held before hbefore a
    rw [hid] at hheld
    rw [refreshed.valuesOf_eq, ← hheld]
    rcases hcell a with hdue | ⟨hnot, hcell⟩
    · exact hdue
    · -- an average that was not due is of the values from before, and was current then
      have hvalues := touched.values before hbefore a (hid ▸ hnot)
      rw [hid] at hvalues
      rw [hcell, hvalues, hheld, h.held_eq]

/-! ## What each write touches -/

/-- The averages over the rows of a table, of the school that a row names. -/
def dueFor (l : Layout) (row : Row) : Aggregate → Int → Prop :=
  fun a s => a.layout.name = l.name ∧ row.cell "school_id" = .int s

theorem valuesOf_congr {a : Aggregate} {s : Int}
    (h : a.dependentsOf mid s = a.dependentsOf db s) : a.valuesOf mid s = a.valuesOf db s := by
  rw [Aggregate.valuesOf, h, Aggregate.valuesOf]

/-- A new row touches the average of the school that it names. -/
theorem touched_grown (h : db.Current) (k : Kept c l) {row : Row}
    (hid : row.id = db.greatestHandedOut l.name + 1) (hsound : (db.grown l row).Sound)
    (hwhole : l = .reviews → ∃ i, row.cell "rating" = .int i)
    (hnull : l = .schools → ∀ a : Aggregate, row.cell a.targetField = .null) :
    db.Touched (db.grown l row) (dueFor l row) where
  sound := hsound
  whole review hreview := by
    rcases mem_grown h.sound k.mem_standard Kept.reviews.mem_standard hreview with hold | ⟨rfl, rfl⟩
    · exact h.whole review hold
    · exact hwhole rfl
  held school hschool a := by
    rcases mem_grown h.sound k.mem_standard Kept.schools.mem_standard hschool with hold | ⟨rfl, rfl⟩
    · exact (a.held_of_mem h.sound hold).symm
    · rw [hnull rfl, a.held_of_absent]
      intro other hother heq
      have := (h.sound.numbered _ k.mem_standard other hother).2
      omega
  values school _ a hnot := by
    refine valuesOf_congr ?_
    rw [Aggregate.dependentsOf, rows_grown h.sound k.mem_standard row a.kept_dependents.mem_standard]
    split
    next hname =>
      have hother : (decide (row.cell "school_id" = .int school.id)) = false :=
        decide_eq_false fun hcell => hnot ⟨hname, hcell⟩
      rw [List.filter_append, List.filter_cons_of_neg (by rw [hother]; decide), List.filter_nil,
        List.append_nil, ← hname]
      rfl
    next => rfl

/-- A row that changes, but neither the school that it names nor an average, touches the average of that
school. -/
theorem touched_amended (h : db.Current) (k : Kept c l) {old row : Row}
    (hold : old ∈ db.rows l.name) (hid : row.id = old.id) (hsound : (db.amended l row).Sound)
    (hwhole : l = .reviews → ∃ i, row.cell "rating" = .int i)
    (hstays : ∀ a : Aggregate, l = a.layout → row.cell "school_id" = old.cell "school_id")
    (hheld : l = .schools → ∀ a : Aggregate, row.cell a.targetField = old.cell a.targetField) :
    db.Touched (db.amended l row) (dueFor l row) where
  sound := hsound
  whole review hreview := by
    rcases mem_amended h.sound k.mem_standard Kept.reviews.mem_standard hreview with
      ⟨hreview, _⟩ | ⟨rfl, rfl⟩
    · exact h.whole review hreview
    · exact hwhole rfl
  held school hschool a := by
    rcases mem_amended h.sound k.mem_standard Kept.schools.mem_standard hschool with
      ⟨hschool, _⟩ | ⟨rfl, rfl⟩
    · exact (a.held_of_mem h.sound hschool).symm
    · rw [hheld rfl, hid, a.held_of_mem h.sound hold]
  values school _ a hnot := by
    refine valuesOf_congr ?_
    rw [Aggregate.dependentsOf, rows_amended h.sound k.mem_standard row a.kept_dependents.mem_standard]
    split
    next hname =>
      -- neither the row nor what it was before belongs to a school that is not due
      obtain rfl := eq_of_name_eq a.kept_dependents.mem_standard k.mem_standard hname
      have hnew : row.cell "school_id" ≠ .int school.id := fun hcell => hnot ⟨rfl, hcell⟩
      refine filter_map_eq fun r hr => ?_
      split
      next hsame =>
        obtain rfl := h.sound.eq_of_id k.mem_standard hr hold (hsame.trans hid)
        exact .inr ⟨decide_eq_false hnew, decide_eq_false (hstays a rfl ▸ hnew)⟩
      next => exact .inl rfl
    next => rfl

/-- The averages of the schools that lose a row but stay themselves when a row is deleted: the row itself
belongs to them, or it goes with its user. -/
def dueForDeletion (db : Database) (name : String) (id : Int) : Aggregate → Int → Prop :=
  fun a s => ∃ row ∈ a.dependentsOf db s,
    (a.layout.name = name ∧ row.id = id) ∨ (name = "users" ∧ row.cell "user_id" = .int id)

/-- Deleting a row touches the averages of the schools that lose a course or review and stay. -/
theorem touched_deleted (h : db.Current) {name : String} {id : Int} (hdeleted : Deleted db name id after) :
    db.Touched after (dueForDeletion db name id) := by
  have hstays {m : Layout} (hm : m ∈ Layout.standard) {row : Row} (hrow : row ∈ after.rows m.name) :=
    (hdeleted.mem_iff h.sound hm).1 hrow
  constructor
  case sound => exact hdeleted.sound h.sound
  case whole =>
    exact fun review hreview => h.whole review (hstays Kept.reviews.mem_standard hreview).1
  case held =>
    exact fun school hschool a =>
      (a.held_of_mem h.sound (hstays Kept.schools.mem_standard hschool).1).symm
  case values =>
    intro school hschool a hnot
    obtain ⟨hthere, hschoolStays⟩ := hstays Kept.schools.mem_standard hschool
    obtain ⟨gone, rfl, hgone⟩ := hdeleted
    refine valuesOf_congr ?_
    have hm := a.kept_dependents.mem_standard
    rw [Aggregate.dependentsOf, rows_pruned h.sound.standing _ hm, List.filter_filter,
      Aggregate.dependentsOf]
    refine List.filter_congr fun row hrow => ?_
    rw [Bool.and_eq_left_iff_imp]
    intro hbelongs
    rw [Bool.not_eq_true', ← Bool.not_eq_true, hgone _ hm row hrow]
    intro hgoes
    have hdependent : row ∈ a.dependentsOf db school.id := List.mem_filter.2 ⟨hrow, hbelongs⟩
    rcases hgoes.dependent a.parents_dependents with hown | ⟨other, hother, hcell⟩ | huser
    · exact hnot ⟨row, hdependent, .inl hown⟩
    · -- its school would have to go, but that stays
      have hsame : school.id = other.id :=
        Cell.int.inj ((of_decide_eq_true hbelongs).symm.trans hcell)
      rw [h.sound.eq_of_id Kept.schools.mem_standard hthere hother.mem.2 hsame] at hschoolStays
      exact hschoolStays hother
    · exact hnot ⟨row, hdependent, .inr huser⟩

end Store.Database

end SchoolCatalog
