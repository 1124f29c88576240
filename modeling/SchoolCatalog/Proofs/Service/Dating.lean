import SchoolCatalog.Proofs.Service.Steps

/-!
# Dates of creation

A row holds the stamp of the instant at which it was created. The one operation of the store that writes
a stamp is the insertion, which draws the next instant of the clock; each operation inserts at most one
row, and draws no instant before it. No update names the field, and recomputing an average writes the
average alone, so that a row keeps its stamp for as long as it is there.

Results:
1. `dated_recomputed`, `dated_leaves`: what keeps all stamps.
2. `dates_insert`, `Dates.read_bind`, `Dates.keep_bind`: the rules for operations that insert.
3. `dates_of_perform`, `dated_of_step`: every operation keeps the stamps of rows that stay and gives a
   new row the stamp of the next instant.
4. `date_kept`: what keeps its identity over a run keeps its stamp.
-/

namespace SchoolCatalog

open Store Store.Database

/-- Whether a write keeps all dates: one that adds no row, and amends none in its date. -/
def Effect.KeepsDates : Effect → Prop
  | .nothing => True
  | .add _ _ => False
  | .amend _ old row => row.cell "created_at" = old.cell "created_at"
  | .remove _ _ => True

/-- What becomes of the dates of creation: a row that was there keeps its own, and one that is new, and
has a new identity, is given a stamp. -/
structure Store.Database.Dated (given : Option String) (db after : Database) : Prop where
  sound : after.Sound
  dates : ∀ l ∈ Layout.standard, ∀ row ∈ after.rows l.name,
    (∃ old ∈ db.rows l.name, old.id = row.id ∧ row.cell "created_at" = old.cell "created_at") ∨
      db.greatestHandedOut l.name < row.id ∧
        ∃ stamp, given = some stamp ∧ row.cell "created_at" = .text stamp

namespace Store.Database

open Service (stamped)

variable {around : Surroundings} {given : Option String} {db mid after : Database} {c : Collection}
  {l : Layout} {values : Record} {row old : Row} {stamp : String}

theorem Dated.refl (h : db.Sound) (given : Option String) : db.Dated given db where
  sound := h
  dates _ _ row hrow := .inl ⟨row, hrow, rfl, rfl⟩

/-- What keeps all dates gives none. -/
theorem Dated.keeps (h : db.Dated none after) (hl : l ∈ Layout.standard) (hrow : row ∈ after.rows l.name) :
    ∃ old ∈ db.rows l.name, old.id = row.id ∧ row.cell "created_at" = old.cell "created_at" :=
  (h.dates l hl row hrow).resolve_right fun ⟨_, _, hnone, _⟩ => nomatch hnone

theorem Dated.of_none (h : db.Dated none after) (given : Option String) : db.Dated given after where
  sound := h.sound
  dates _ hl _ hrow := .inl (h.keeps hl hrow)

theorem Dated.trans (h : db.Dated given mid) (h' : mid.Dated none after) : db.Dated given after where
  sound := h'.sound
  dates l hl row hrow := by
    obtain ⟨between, hbetween, hid, hcell⟩ := h'.keeps hl hrow
    rw [← hid, hcell]
    exact h.dates l hl between hbetween

/-! ## What keeps all dates -/

theorem created_column (hl : l ∈ Layout.standard) :
    ∃ col ∈ l.columns, col.name = "created_at" ∧ col.affinity = .numeric := by
  revert l
  decide

/-- Recomputing averages keeps all dates. -/
theorem dated_recomputed {due : Aggregate → Int → Prop}
    (hafter : Recomputed around db after due) : db.Dated none after where
  sound := hafter.averaged.sound
  dates l hl row hrow := by
    by_cases hname : l.name = "schools"
    · obtain rfl := eq_of_name_eq hl Kept.schools.mem_standard hname
      have hids : row.id ∈ (after.rows "schools").map (·.id) := List.mem_map_of_mem hrow
      rw [hafter.averaged.ids] at hids
      obtain ⟨school, hschool, hid⟩ := List.mem_map.1 hids
      obtain ⟨now, hnow, hsame, hcells⟩ := hafter.averaged.schools school hschool
      obtain rfl := hafter.averaged.sound.eq_of_id hl hnow hrow (hsame.trans hid)
      obtain ⟨col, hcol, hcreated, _⟩ := created_column hl
      refine .inl ⟨school, hschool, hid, ?_⟩
      rcases hcells col hcol with hcell | ⟨a, _, haverage, _⟩
      · rwa [hcreated] at hcell
      · exact absurd (haverage.symm.trans hcreated) a.targetField_ne
    · rw [hafter.averaged.others l hl hname] at hrow
      exact .inl ⟨row, hrow, rfl, rfl⟩

theorem dated_made (h : db.Sound) {effect : Effect} (hm : effect.Makes db mid) (hkeeps : effect.KeepsDates) :
    db.Dated none mid where
  sound := hm.sound h
  dates l hl row hrow := by
    rcases hm.mem_row h hl hrow with hold | rfl | ⟨old, hold, hid, rfl⟩
    · exact .inl ⟨row, hold, rfl, rfl⟩
    · exact hkeeps.elim
    · exact .inl ⟨old, hold, hid.symm, hkeeps⟩

theorem dated_leaves (h : db.Sound) {effect : Effect} (hl : effect.Leaves around db after)
    (hkeeps : effect.KeepsDates) : db.Dated none after := by
  obtain ⟨mid, hm, hafter⟩ := hl
  exact (dated_made h hm hkeeps).trans (dated_recomputed hafter)

/-- A row that is added is given its stamp. -/
theorem dated_grown (h : db.Sound) (hl : l ∈ Layout.standard) (hsound : (db.grown l row).Sound)
    (hnext : row.id = db.greatestHandedOut l.name + 1) (hcell : row.cell "created_at" = .text stamp) :
    db.Dated (some stamp) (db.grown l row) where
  sound := hsound
  dates m hm r hr := by
    rcases mem_grown h hl hm hr with hold | ⟨rfl, rfl⟩
    · exact .inl ⟨r, hold, rfl, rfl⟩
    · exact .inr ⟨by omega, stamp, rfl, hcell⟩

/-- Values that give no date of creation. -/
abbrev Undated (values : Record) : Prop := ∀ d, ("created_at", d) ∉ values

theorem created_of_written (hl : l ∈ Layout.standard) (hvalues : Undated values) (hstamp : IsStamp stamp)
    (hwritten : ∀ col ∈ l.columns,
      Written (stamped c values stamp) col col.default (row.cell col.name)) :
    row.cell "created_at" = .text stamp := by
  obtain ⟨col, hcol, hname, hnumeric⟩ := created_column hl
  have hcell := hwritten col hcol
  rw [Written, hname] at hcell
  rcases hcell with ⟨d, v, hd, hbind, hcell⟩ | ⟨hnone, _⟩
  · rcases mem_stamped hd with hd | hd
    · exact absurd (mem_writable hd) (hvalues d)
    · cases hd
      cases hbind
      rw [hcell, hnumeric, hstamp.store]
  · obtain ⟨d, hd⟩ := created_stamped c values stamp
    exact absurd hd (hnone d)

/-- Amending a row with values that give no date keeps its own. -/
theorem Amends.keepsDates (hamends : db.Amends c l values old row) (hl : l ∈ Layout.standard)
    (hvalues : Undated values) : (Effect.amend l old row).KeepsDates := by
  obtain ⟨col, hcol, hname, _⟩ := created_column hl
  have hcell := hamends.cell_eq hcol (hname ▸ hvalues)
  rwa [hname] at hcell

end Store.Database

namespace Service

variable {α β : Type} {around : Surroundings} {db : Database} {n : Nat} {c : Collection} {l : Layout}
  {x : Service α}

/-! ## Rules -/

/-- What becomes of the dates of creation in an operation that is started when so many instants were
drawn. -/
def Dates (around : Surroundings) (db : Database) (n : Nat) (x : Service α) : Prop :=
  ∀ state, state.database = db → state.stamps = n →
    db.Dated (stamp? (around.instant n)) (run x around state).2.database

/-- An operation that keeps all dates if it answers keeps them whatever it does. -/
theorem Achieves.dated (h : db.Sound) (hx : Achieves around db x fun _ after => db.Dated none after) :
    Ensures around db x fun _ after => db.Dated none after := by
  refine Ensures.weaken hx fun result after hafter => ?_
  cases result with
  | error failure =>
    rw [show after = db from hafter]
    exact .refl h none
  | ok a => exact hafter

theorem Achieves.dates (h : db.Sound) (hx : Achieves around db x fun _ after => db.Dated none after) :
    Dates around db n x :=
  fun state hstate _ => (hx.dated h state hstate).of_none _

/-- An operation that begins with finding something out, and draws no instant for that. -/
theorem Dates.read_bind (h : db.Sound) {known : α → Prop} {f : α → Service β}
    (hx : Finds around db x known) (hspares : Spares State.stamps x)
    (hf : ∀ a, known a → Dates around db n (f a)) : Dates around db n (x >>= f) := by
  intro state hstate hstamps
  have hfound := hx state hstate
  have hdrawn := hspares around state
  rw [run_bind]
  cases hrun : run x around state with
  | mk result next =>
    rw [hrun] at hfound hdrawn
    cases result with
    | error failure =>
      rw [show next.database = db from hfound]
      exact .refl h _
    | ok a =>
      obtain ⟨hsame, hknown⟩ := hfound
      exact hf a hknown next hsame (hdrawn.trans hstamps)

/-- An operation that goes on in a way that keeps all dates. -/
theorem Dates.keep_bind {f : α → Service β} (hx : Dates around db n x)
    (hf : ∀ a mid, mid.Sound → Achieves around mid (f a) fun _ after => mid.Dated none after) :
    Dates around db n (x >>= f) := by
  intro state hstate hstamps
  have hmid := hx state hstate hstamps
  rw [run_bind]
  cases hrun : run x around state with
  | mk result next =>
    rw [hrun] at hmid
    cases result with
    | error failure => exact hmid
    | ok a => exact hmid.trans ((hf a next.database hmid.sound).dated hmid.sound next rfl)

theorem Dates.map {f : α → β} (hx : Dates around db n x) : Dates around db n (f <$> x) := by
  intro state hstate hstamps
  rw [run_map]
  exact hx state hstate hstamps

theorem Dates.wording {report : Violation → Service α} (hx : Dates around db n x)
    (hreport : ∀ rule, Reads (report rule)) : Dates around db n (Service.wording x report) := by
  intro state hstate hstamps
  have hafter := hx state hstate hstamps
  rw [run_wording]
  split
  next rule next hrun =>
    rw [hrun] at hafter
    rw [hreport rule around next]
    exact hafter
  next => exact hafter

/-- Inserting gives the new row the stamp of the next instant. -/
theorem dates_insert (h : db.Sound) (k : Kept c l) {values : Record} (hvalues : Undated values) :
    Dates around db n (({} : Store).insert c values) := by
  rintro state rfl rfl
  rw [run_insert]
  cases hstamp : stamp? (around.instant state.stamps) with
  | none => exact .refl h _
  | some stamp =>
    dsimp only
    cases hinsert : state.database.insert c (stamped c values stamp) with
    | error failure => exact .refl h _
    | ok result =>
      obtain ⟨after, id⟩ := result
      obtain ⟨row, rfl, rfl, hsound, hnext, hwritten⟩ :=
        insert_spec h k (forColumns_stamped k values stamp) hinsert
      exact dated_grown h k.mem_standard hsound hnext
        (created_of_written k.mem_standard hvalues ⟨_, hstamp⟩ hwritten)

/-! ## Drawing no instant -/

theorem stamps_info (text : String) : Spares State.stamps (Service.info text) := fun _ _ => rfl

theorem stamps_locationOf (address : Wording) : Spares State.stamps (Schools.locationOf address) := by
  have hlocate (geocoder : Geo.Geocoder) : Spares State.stamps (Service.locate geocoder address) := by
    unfold Service.locate
    exact Spares.bind (fun _ _ => rfl) fun _ => spares_surroundings.bind fun _ => spares_ofExcept _
  unfold Schools.locationOf
  refine spares_surroundings.bind fun around => ?_
  split
  · exact spares_pure _
  · refine (hlocate _).attempt.bind fun result => ?_
    split
    · exact spares_pure _
    · exact Spares.bind (fun _ _ => rfl) fun _ => spares_pure _
    · exact spares_fail _

theorem stamps_keepPassword (password : String) : Spares State.stamps (Accounts.keepPassword password) :=
  Spares.bind (fun _ _ => rfl) fun _ => spares_surroundings.bind fun _ => spares_ofExcept _

/-! ## Operations that insert -/

theorem undated_newSchool (draft : SchoolDraft) {location : Record} (hlocation : Describes location)
    (caller : Caller) : Undated (newSchool draft location caller) :=
  (describes_new draft hlocation caller).absent (by decide)

theorem dates_createSchool (h : db.Sound) (draft : SchoolDraft) (caller : Caller) :
    Dates around db n (Schools.create draft caller) := by
  have hpublish : Dates around db n (publishAllowed draft caller) := by
    refine Dates.read_bind h (finds_locationOf draft.address) (stamps_locationOf _) ?_
    intro location hlocation
    have hinsert : Dates around db n (({} : Store).insert .schools (newSchool draft location caller)) :=
      dates_insert h .schools (undated_newSchool draft hlocation.describes caller)
    exact (hinsert.wording fun _ => spares_fail _).keep_bind fun _ mid hmid => ensures_done_info (.refl hmid none) _
  rw [create_eq]
  split
  · exact hpublish
  · refine Dates.read_bind h (spares_findOne _ _ _).finds (spares_findOne _ _ _) fun found _ => ?_
    split
    · exact Achieves.dates h (achieves_fail _)
    · exact hpublish

theorem dates_addAccount (h : db.Sound) (draft : AccountDraft) (role : String) :
    Dates around db n (Accounts.add draft role) := by
  unfold Accounts.add
  refine Dates.read_bind h (spares_info lasting_database _).finds (stamps_info _) fun _ _ => ?_
  refine Dates.read_bind h (finds_keepPassword draft.password) (stamps_keepPassword _) fun kept _ => ?_
  have hinsert : Dates around db n (({} : Store).insert .users (newAccount draft role kept)) :=
    dates_insert h .users fun _ => by simp [newAccount]
  exact hinsert.wording fun _ => spares_fail _

theorem dates_register (h : db.Sound) (draft : AccountDraft) :
    Dates around db n (Accounts.register draft) :=
  Dates.read_bind h (finds_present h) (spares_count _ _) fun _ _ => dates_addAccount h draft _

/-- The values of a new course or review give no date. -/
theorem undated_addressed {record : Record} (hrecord : Undated record) (school : Datum) (caller : Caller) :
    Undated (addressed record school caller) := by
  intro d hd
  rcases Record.mem_putAll hd with hd | hd
  · exact hrecord d hd
  · simp at hd

/-- Adding a course or review to a school, and recomputing. -/
theorem dates_addTo {a : Aggregate} {school : Datum} {s : Int} (hs : school.Denotes s)
    {inserted : Service Record} (hinserted : Dates around db n inserted) (text : Record → String) :
    Dates around db n (addTo a school inserted text) :=
  hinserted.keep_bind fun _ _ hmid =>
    ensures_finish_return hmid hs _ fun _ hafter => dated_recomputed hafter

theorem dates_createCourse (h : db.Sound) (school : Datum) (draft : CourseDraft) (caller : Caller) :
    Dates around db n (Courses.create school draft caller) := by
  unfold Courses.create
  refine Dates.read_bind h (finds_of_eq (ensures_getRecord school none)) (spares_getRecord _ _ _) ?_
  intro found hfound
  cases found with
  | none => exact Achieves.dates h (achieves_fail _)
  | some record =>
    obtain ⟨owner, _, hs, _⟩ := of_record?_some h .schools hfound
    refine Dates.read_bind h (finds_ofExcept _) (spares_ofExcept _) fun _ _ => ?_
    exact dates_addTo (a := .cost) hs (dates_insert h .courses
      (undated_addressed (fun _ => by simp [CourseDraft.record]) school caller)) _

theorem dates_createReview (h : db.Sound) (school : Datum) (draft : ReviewDraft) (caller : Caller) :
    Dates around db n (Reviews.create school draft caller) := by
  unfold Reviews.create
  refine Dates.read_bind h (finds_of_eq (ensures_getRecord school _)) (spares_getRecord _ _ _) ?_
  intro found hfound
  cases found with
  | none => exact Achieves.dates h (Ensures.fail_bind rfl)
  | some record =>
    obtain ⟨reviewed, _, hs, _⟩ := of_record?_some h .schools hfound
    refine dates_addTo (a := .rating) hs ?_ _
    exact (dates_insert h .reviews
      (undated_addressed (fun _ => by simp [ReviewDraft.record]) school caller)).wording fun rule =>
        (spares_info lasting_database _).bind fun _ => spares_fail _

/-! ## Operations that write no new row -/

theorem undated_courseChange (change : CourseChange) : Undated change.record :=
  fun _ hd => by simpa [CourseChange.fields] using mem_given hd

theorem undated_reviewChange (change : ReviewChange) : Undated change.record :=
  fun _ hd => by simpa [ReviewChange.fields] using mem_given hd

/-- An operation all of whose effects keep the dates. -/
theorem dates_of_may (h : db.Sound) {operation : Operation}
    (hkeeps : ∀ effect, operation.May db effect → effect.KeepsDates) :
    Dates around db n operation.perform := by
  refine Achieves.dates h ((effect_of_perform h operation).weaken ?_)
  rintro _ after ⟨effect, hmay, _, _, hleaves⟩
  exact dated_leaves h hleaves (hkeeps effect hmay)

/-- Every operation keeps the dates of rows that stay, and gives a new row the stamp of the next instant. -/
theorem dates_of_perform (h : db.Sound) (operation : Operation) :
    Dates around db n operation.perform := by
  cases operation with
  | createSchool draft caller => exact (dates_createSchool h draft caller).map
  | createCourse school draft caller => exact (dates_createCourse h school draft caller).map
  | createReview school draft caller => exact (dates_createReview h school draft caller).map
  | register draft => exact (dates_register h draft).map
  | createAccount draft => exact (dates_addAccount h draft _).map
  | updateSchool id change caller =>
    refine Achieves.dates h (Achieves.map ((achieves_updateSchool h id change caller).weaken ?_))
    rintro _ after ⟨old, row, values, _, hvalues, hamends, rfl, _⟩
    exact dated_made h (hamends.makes .schools)
      (hamends.keepsDates Kept.schools.mem_standard (hvalues.describes.absent (by decide)))
  | uploadPhoto id filename contentType content caller =>
    refine Achieves.dates h
      (Achieves.map ((achieves_uploadPhoto h id filename contentType content caller).weaken ?_))
    rintro _ after ⟨old, _, ⟨_, rfl⟩ | ⟨row, hamends, rfl⟩⟩
    · exact .refl h none
    · exact dated_made h (hamends.makes .schools)
        (hamends.keepsDates Kept.schools.mem_standard ((describes_photo _).absent (by decide)))
  | updateCourse id change caller =>
    refine Achieves.dates h (Achieves.map ((achieves_updateCourse h id change caller).weaken ?_))
    rintro _ after ⟨old, row, _, hamends, hleaves, _⟩
    exact dated_leaves h hleaves
      (hamends.keepsDates Kept.courses.mem_standard (undated_courseChange change))
  | updateReview id change caller =>
    refine Achieves.dates h (Achieves.map ((achieves_updateReview h id change caller).weaken ?_))
    rintro _ after ⟨old, row, _, hamends, hleaves, _⟩
    exact dated_leaves h hleaves
      (hamends.keepsDates Kept.reviews.mem_standard (undated_reviewChange change))
  | updateAccount id change =>
    refine Achieves.dates h (Achieves.map ((achieves_updateAccount h id change).weaken ?_))
    rintro _ after ⟨old, row, values, _, hvalues, hamends, rfl, _⟩
    exact dated_made h (hamends.makes .users)
      (hamends.keepsDates Kept.users.mem_standard (hvalues.absent (by decide)))
  | listSchools | getSchool | deleteSchool | schoolsInRadius | listCourses | coursesOfSchool | getCourse
  | deleteCourse | listReviews | reviewsOfSchool | getReview | deleteReview | authenticate | listAccounts
  | getAccount | deleteAccount =>
    refine dates_of_may h ?_
    rintro _ ⟨⟩
    all_goals trivial

end Service

namespace Operation

variable {state : State} {l : Layout}

/-! ## Steps and runs -/

/-- A step keeps the dates of rows that stay, and gives a new row the stamp of the next instant. -/
theorem dated_of_step (h : state.database.Sound) (request : Surroundings × Operation) :
    state.database.Dated (stamp? (request.1.instant state.stamps)) (step state request).database :=
  Service.dates_of_perform h request.2 state rfl rfl

/-- What keeps its identity over a run keeps its date. -/
theorem date_kept (h : state.database.Sound) (requests : List (Surroundings × Operation))
    (hl : l ∈ Layout.standard) {row : Row} (hrow : row ∈ (runAll state requests).database.rows l.name)
    (hold : row.id ≤ state.database.greatestHandedOut l.name) :
    ∃ before ∈ state.database.rows l.name, before.id = row.id ∧
      row.cell "created_at" = before.cell "created_at" := by
  induction requests generalizing state with
  | nil => exact ⟨row, hrow, rfl, rfl⟩
  | cons request rest ih =>
    obtain ⟨mid, hmid, hid, hcell⟩ := ih (sound_step h request) hrow
      (Int.le_trans hold (handedOut_run h [request] l.name))
    rcases (dated_of_step h request).dates l hl mid hmid with ⟨before, hbefore, hsame, hdate⟩ | ⟨hnew, _⟩
    · exact ⟨before, hbefore, hsame.trans hid, hcell.trans hdate⟩
    · exact absurd hold (Int.not_le.2 (hid ▸ hnew))

end Operation

end SchoolCatalog
