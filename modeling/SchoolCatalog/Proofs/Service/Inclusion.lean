import SchoolCatalog.Proofs.Service.Listing

/-!
# Included records

What records get that schools or courses are attached to. Keys are looked up many at once, and what is
found is dealt out to the records again; still each record gets what a lookup of its own would find, in
whatever way its keys repeat and however they are cut into batches. That needs the tables to be there, and
no batch may have more keys than a statement can hold.

Results:
1. `attachment_school`, `attachment_courses`: what a key leads to.
2. `populate_included`: both inclusions, for any records.
3. `populate_refused`: without tables, or with a batch that is too large, nothing is attached.
-/

namespace SchoolCatalog

open Store Service

namespace Store.Database

/-- The school that a key names, in short: its identity, name and description; null if there is none. -/
def schoolInShort (db : Database) (key : Datum) : Datum :=
  match key with
  | .int i => match (db.rows "schools").find? (·.id = i) with
    | some school => .dict [("id", .int school.id), ("name", (school.cell "name").toDatum),
        ("description", (school.cell "description").toDatum)]
    | none => .null
  | _ => .null

/-- The courses of the school that a key names, the latest first. -/
def coursesOf (db : Database) (key : Datum) : List Row :=
  match key with
  | .int i => sortRows (rowKeys .courses [⟨"created_at", true⟩])
      ((db.rows "courses").filter fun course => course.meets "school_id" i)
  | _ => []

end Store.Database

/-- The record of a row with all its visible fields. -/
def Collection.fullRecord (c : Collection) (row : Row) : Record :=
  c.visibleFields.map fun f => (f, shown c f (row.read (fieldReference f)))

namespace Store

variable {db : Database}

theorem attaches_summary : Attaches .courses .courses .schoolSummary .schools :=
  Listed.courses.attaches

theorem attaches_courses : Attaches .schools .schools .schoolCourses .courses :=
  Listed.schools.attaches

/-! ## What a key leads to -/

theorem relatedRecord_school (row : Row) : relatedRecord .schoolSummary .schools row =
    [("id", .int row.id), ("name", (row.cell "name").toDatum),
      ("description", (row.cell "description").toDatum)] := by
  have hcolumns : columns Include.schoolSummary.collection (Include.schoolSummary.fields.map
      fun fields => fields ++ [Include.schoolSummary.foreignField]) false =
        ["id", "name", "description"] := by decide
  rw [relatedRecord, hcolumns]
  exact recordOf_shown .schools (by decide) (by decide) row

theorem relatedRecord_course (row : Row) : relatedRecord .schoolCourses .courses row =
    Collection.courses.fullRecord row := by
  obtain ⟨hnodup, _, hdeclared⟩ := columns_spec .courses none false
  exact recordOf_shown .courses hnodup hdeclared row

/-- A key leads to the school that it names, if there is one. -/
theorem attachment_school (h : db.Regular) {key : Datum} (hkey : IsLink key) :
    attachment .schoolSummary (db.relatable .schoolSummary .schools) key = db.schoolInShort key := by
  cases hkey with
  | null => exact attachment_null _ _
  | @int i fits =>
    have hrelated : ∀ row ∈ db.relatedRows .schoolSummary .schools, row ∈ db.rows Layout.schools.name :=
      fun row hrow => mem_relatedRows.1 hrow
    have hown := own_eq h attaches_summary hrelated i
    have hmeets (row : Row) : row.meets "id" i = true ↔ row.id = i := by
      show decide ((Cell.int row.id).compare (.int i) = .eq) = true ↔ _
      rw [decide_eq_true_iff]
      exact Int.compare_eq_eq
    -- at most one school has the identity, so that the last one found is the first in the table
    have hlast : ((db.relatedRows .schoolSummary .schools).filter fun row => row.meets "id" i).getLast? =
        (db.rows "schools").find? (·.id = i) := by
      cases hfind : (db.rows "schools").find? (·.id = i) with
      | none =>
        rw [List.getLast?_eq_none_iff, List.filter_eq_nil_iff]
        intro row hrow hsame
        have hother := List.find?_eq_none.1 hfind row (mem_relatedRows.1 hrow)
        exact hother (decide_eq_true ((hmeets row).1 hsame))
      | some school =>
        have hid : school.id = i := by simpa using List.find?_some hfind
        have hschool : school ∈ (db.relatedRows .schoolSummary .schools).filter
            fun row => row.meets "id" i :=
          List.mem_filter.2 ⟨mem_relatedRows.2 (List.mem_of_find?_eq_some hfind), (hmeets school).2 hid⟩
        rw [List.getLast?_eq_some_getLast (List.ne_nil_of_mem hschool), Option.some.injEq]
        obtain ⟨hlast, hsame⟩ := List.mem_filter.1 (List.getLast_mem (List.ne_nil_of_mem hschool))
        exact eq_of_mark_eq (h.different _ Kept.schools.mem_standard) (mem_relatedRows.1 hlast)
          (List.mem_of_find?_eq_some hfind) (((hmeets _).1 hsame).trans hid.symm)
    unfold attachment
    dsimp only
    rw [Database.relatable, hown]
    show Datum.ofOption (Option.map _ (List.getLast? (List.map _ (List.filter _ _)))) = _
    rw [List.getLast?_map]
    show Datum.ofOption (Option.map _ (Option.map _ (List.getLast? ((db.relatedRows .schoolSummary
      .schools).filter fun row => row.meets "id" i)))) = _
    rw [hlast, Database.schoolInShort]
    cases (db.rows "schools").find? (·.id = i) with
    | none => rfl
    | some school =>
      show Datum.dict (relatedRecord .schoolSummary .schools school) = _
      rw [relatedRecord_school]

/-- A key leads to the courses of the school that it names, the latest first. -/
theorem attachment_courses (h : db.Regular) {key : Datum} (hkey : IsLink key) :
    attachment .schoolCourses (db.relatable .schoolCourses .courses) key =
      .list ((db.coursesOf key).map fun course => .dict (Collection.courses.fullRecord course)) := by
  cases hkey with
  | null => exact attachment_null _ _
  | @int i fits =>
    have hrelated : ∀ row ∈ db.relatedRows .schoolCourses .courses, row ∈ db.rows Layout.courses.name :=
      fun row hrow => mem_relatedRows.1 hrow
    have hown := own_eq h attaches_courses hrelated i
    have hsorted : (db.relatedRows .schoolCourses .courses).filter
        (fun row => row.meets "school_id" i) = db.coursesOf (.int i) :=
      filter_sortRows (h.proper _ Kept.courses.mem_standard) (h.different _ Kept.courses.mem_standard)
        (by decide) _
    unfold attachment
    dsimp only
    rw [Database.relatable, hown]
    show Datum.list (List.map _ (List.map _ ((db.relatedRows .schoolCourses .courses).filter
      fun row => row.meets "school_id" i))) = _
    rw [hsorted, List.map_map]
    refine congrArg Datum.list (List.map_congr_left fun course _ => ?_)
    show Datum.dict (relatedRecord .schoolCourses .courses course) = _
    rw [relatedRecord_course]

theorem mem_coursesOf {key : Datum} {course : Row} : course ∈ db.coursesOf key ↔
    course ∈ db.rows "courses" ∧ ∃ i, key = .int i ∧ course.meets "school_id" i = true := by
  cases key with
  | int i =>
    rw [Database.coursesOf, (sortRows_perm _ _).mem_iff, List.mem_filter]
    simp
  | _ => simp [Database.coursesOf]

/-- The courses of a school come one after the other in the order of a list of courses. -/
theorem coursesOf_sorted (h : db.Regular) (key : Datum) :
    (db.coursesOf key).Pairwise (Precedes · · [⟨"created_at", true⟩]) := by
  cases key with
  | int i =>
    have hcourses := Kept.courses.mem_standard
    exact sortRows_precedes (c := .courses)
      (fun row hrow => h.proper _ hcourses row (List.mem_filter.1 hrow).1)
      ((h.different _ hcourses).sublist (List.filter_sublist.map _)) (by decide)
  | _ => exact List.Pairwise.nil

end Store

/-! ## Results -/

/-- Whether no batch of the keys of records is more than a statement can hold. -/
def Surroundings.Holds (around : Surroundings) (inc : Include) (records : List Record) : Prop :=
  around.batchSize ≤ Statement.greatestParameters ∨
    (distinct (localKeys inc records)).length ≤ Statement.greatestParameters

instance (around : Surroundings) (inc : Include) (records : List Record) :
    Decidable (around.Holds inc records) :=
  inferInstanceAs (Decidable (_ ∨ _))

/-- In a database that was set up, any records whose keys are integers of 64 bits, null or absent, in
batches of any size that a statement can hold: each record gets under the path of the inclusion what its
own key leads to, and keeps everything else. -/
theorem populate_included {state : State} (regular : state.database.Regular) (around : Surroundings)
    (hsize : 0 < around.batchSize) (records : List Record) :
    let db := state.database
    let outcome (inc : Include) := Service.run (({} : Store).populate records inc) around state
    ((∀ r ∈ records, IsLink (Record.field r "school_id")) →
      outcome .schoolSummary = (if around.Holds .schoolSummary records then
        .ok (records.map fun r =>
          Record.put r "school" (db.schoolInShort (Record.field r "school_id")))
        else .error .unavailable, state)) ∧
    ((∀ r ∈ records, IsLink (Record.field r "id")) →
      outcome .schoolCourses = (if around.Holds .schoolCourses records then
        .ok (records.map fun r => Record.put r "courses" (.list
          ((db.coursesOf (Record.field r "id")).map fun course =>
            .dict (Collection.courses.fullRecord course))))
        else .error .unavailable, state)) ∧
    (∀ key, (db.coursesOf key).Pairwise (Precedes · · [⟨"created_at", true⟩])) ∧
    ∀ key course, course ∈ db.coursesOf key ↔
      course ∈ db.rows "courses" ∧ ∃ i, key = .int i ∧ course.meets "school_id" i = true := by
  intro db outcome
  refine ⟨fun hlinks => ?_, fun hlinks => ?_, coursesOf_sorted regular, fun _ _ => mem_coursesOf⟩
  · have hattached : (records.map fun r => Record.put r "school"
        (attachment .schoolSummary (db.relatable .schoolSummary .schools) (Record.field r "school_id"))) =
        records.map fun r => Record.put r "school" (db.schoolInShort (Record.field r "school_id")) :=
      List.map_congr_left fun r hr =>
        congrArg (Record.put r "school") (attachment_school regular (hlinks r hr))
    rw [← hattached]
    exact run_populate_keyed regular attaches_summary hsize hlinks
  · have hattached : (records.map fun r => Record.put r "courses"
        (attachment .schoolCourses (db.relatable .schoolCourses .courses) (Record.field r "id"))) =
        records.map fun r => Record.put r "courses" (.list
          ((db.coursesOf (Record.field r "id")).map fun course =>
            .dict (Collection.courses.fullRecord course))) :=
      List.map_congr_left fun r hr =>
        congrArg (Record.put r "courses") (attachment_courses regular (hlinks r hr))
    rw [← hattached]
    exact run_populate_keyed regular attaches_courses hsize hlinks

/-- Two records, one with the key of a school and one with none. -/
def asking : List Record := [[("id", .int 1), ("school_id", .int 1)], [("title", .text "Web")]]

theorem school_of_asking :
    let state := Operation.runAll .fresh Operation.opening
    state.database.Regular ∧
    Service.run (({} : Store).populate asking .schoolSummary) Operation.calm state =
      (.ok (asking.map fun r =>
        Record.put r "school" (state.database.schoolInShort (Record.field r "school_id"))), state) := by
  intro state
  have sound : state.database.Sound := Operation.sound_run sound_fresh Operation.opening
  have hlinks : ∀ r ∈ asking, IsLink (Record.field r "school_id") := by
    intro r hr
    rcases List.mem_pair.1 hr with rfl | rfl
    · exact .int (by decide)
    · exact .null
  have hincluded := (populate_included sound.regular Operation.calm (by decide) asking).1 hlinks
  rw [if_pos (by decide)] at hincluded
  exact ⟨sound.regular, hincluded⟩

/-- Records with the keys of a number of schools. -/
def asked (n : Nat) : List Record :=
  (List.range n).map fun i : Nat => [("id", .int i), ("school_id", .int i)]

theorem distinct_asked (n : Nat) : (distinct (localKeys .schoolSummary (asked n))).length = n := by
  have hkeys : localKeys .schoolSummary (asked n) = ((List.range n).map Int.ofNat).map .int := by
    rw [localKeys, asked, List.map_map, List.map_map, List.filter_eq_self.2]
    · rfl
    · intro d hd
      obtain ⟨i, _, rfl⟩ := List.mem_map.1 hd
      rfl
  obtain ⟨sorted, _, hnodup, hmem, hlength⟩ := sortedKeys_int ((List.range n).map Int.ofNat)
  have hrange : ((List.range n).map Int.ofNat).Nodup :=
    List.nodup_range.map fun i j hsame => Int.ofNat.inj hsame
  have hperm := (List.perm_ext_iff_of_nodup hnodup hrange).2 hmem
  rw [hkeys, ← hlength, hperm.length_eq, List.length_map, List.length_range]

/-- Nothing is attached in a database that was not set up, and nothing either where a batch has more keys
than a statement can hold. -/
theorem populate_refused :
    Service.run (({} : Store).populate [[("id", .int 1), ("school_id", .int 1)]] .schoolSummary)
      Operation.calm {} = (.error .unavailable, {}) ∧
    Service.run (({} : Store).populate (asked 250001) .schoolSummary)
      { Operation.calm with batchSize := 250001 } .fresh = (.error .unavailable, .fresh) := by
  have hlinks : ∀ r ∈ asked 250001, IsLink (Record.field r "school_id") := by
    intro r hr
    obtain ⟨i, hi, rfl⟩ := List.mem_map.1 hr
    have hfew := List.mem_range.1 hi
    have hleast : Number.leastWord ≤ (i : Int) := Int.le_trans (by decide) (Int.natCast_nonneg i)
    have hmost : (i : Int) ≤ Number.greatestWord :=
      Int.le_trans (Int.ofNat_le.2 (Nat.le_of_lt hfew)) (by decide)
    exact .int (by rw [Number.fitsWord, decide_eq_true hleast, decide_eq_true hmost]; rfl)
  have hexceeds : ¬ ((250001 : Int) ≤ Statement.greatestParameters ∨
      (distinct (localKeys .schoolSummary (asked 250001))).length ≤ Statement.greatestParameters) := by
    rw [distinct_asked]
    decide
  refine ⟨rfl, ?_⟩
  let wide : Surroundings := { Operation.calm with batchSize := 250001 }
  have hregular : State.fresh.database.Regular := sound_fresh.regular
  have hpopulated := run_populate_keyed hregular attaches_summary (show 0 < wide.batchSize by decide) hlinks
  exact hpopulated.trans (congrArg (·, State.fresh) (if_neg hexceeds))

end SchoolCatalog
