import SchoolCatalog.Proofs.Service.Schools
import SchoolCatalog.Proofs.Service.Dependents
import SchoolCatalog.Proofs.Service.Accounts

/-!
# Steps

What each operation may do, summed up: most only read, and the others have one effect, on a row that the
caller may change where it was there before. An operation that fails has none. Every step follows the
averages: what it leaves is sound, every school holds its average if that can be stored, and a school
without one holds what it held before.

Results:
1. `effect_of_perform`: every operation has one of the effects that it may have, or fails without any.
2. `effect_of_step`, `sound_run`: the effect of a step, and the invariant in every run.
3. `holds_run`: what columns hold in every run.
4. `id_of_run`: no run brings an identity back.
5. `follows_step`: every step follows the averages.
-/

namespace SchoolCatalog

open Store Store.Database

open Service

namespace Operation

/-- The effects that an operation may have; every one may have none. -/
inductive May (db : Database) : Operation → Effect → Prop
  | nothing {operation : Operation} : May db operation .nothing
  | createSchool {draft : SchoolDraft} {caller : Caller} {row : Row} :
      caller.isAdmin = true ∨ OwnsNone db caller.id →
      (∃ u, row.cell "user_id" = .int u ∧ caller.id.Denotes u) →
      May db (createSchool draft caller) (.add .schools row)
  | updateSchool {id : Datum} {change : SchoolChange} {caller : Caller} {old row : Row} :
      Allows db .schools .schools caller id old → row.cell "user_id" = old.cell "user_id" →
      May db (updateSchool id change caller) (.amend .schools old row)
  | deleteSchool {id : Datum} {caller : Caller} {old : Row} :
      Allows db .schools .schools caller id old →
      May db (deleteSchool id caller) (.remove .schools old)
  | uploadPhoto {id : Datum} {filename : Option Wording} {contentType : Option String}
      {content : Bytes} {caller : Caller} {old row : Row} :
      Allows db .schools .schools caller id old → row.cell "user_id" = old.cell "user_id" →
      May db (uploadPhoto id filename contentType content caller) (.amend .schools old row)
  | createCourse {school : Datum} {draft : CourseDraft} {caller : Caller} {owner row : Row} :
      Allows db .schools .schools caller school owner → row.cell "school_id" = .int owner.id →
      May db (createCourse school draft caller) (.add .courses row)
  | updateCourse {id : Datum} {change : CourseChange} {caller : Caller} {old row : Row} :
      Allows db .courses .courses caller id old →
      May db (updateCourse id change caller) (.amend .courses old row)
  | deleteCourse {id : Datum} {caller : Caller} {old : Row} :
      Allows db .courses .courses caller id old →
      May db (deleteCourse id caller) (.remove .courses old)
  | createReview {school : Datum} {draft : ReviewDraft} {caller : Caller} {reviewed row : Row} :
      reviewed ∈ db.rows "schools" → school.Denotes reviewed.id →
      row.cell "school_id" = .int reviewed.id →
      May db (createReview school draft caller) (.add .reviews row)
  | updateReview {id : Datum} {change : ReviewChange} {caller : Caller} {old row : Row} :
      Allows db .reviews .reviews caller id old →
      May db (updateReview id change caller) (.amend .reviews old row)
  | deleteReview {id : Datum} {caller : Caller} {old : Row} :
      Allows db .reviews .reviews caller id old →
      May db (deleteReview id caller) (.remove .reviews old)
  | register {draft : AccountDraft} {row : Row} :
      row.cell "role" = .text (registeredRole db draft) →
      May db (register draft) (.add .users row)
  | createAccount {draft : AccountDraft} {row : Row} : row.cell "role" = .text draft.role →
      May db (createAccount draft) (.add .users row)
  | updateAccount {id : Datum} {change : AccountChange} {old row : Row} : id.Denotes old.id →
      May db (updateAccount id change) (.amend .users old row)
  | deleteAccount {id : Datum} {old : Row} : id.Denotes old.id →
      May db (deleteAccount id) (.remove .users old)

/-- The operations that write accounts: registering and creating add one with its role, updating amends
one and deleting removes one. -/
def WritesAccount (db : Database) (operation : Operation) : Effect → Prop
  | .nothing => True
  | .add l row => l.name = "users" →
      (∃ draft, operation = register draft ∧ row.cell "role" = .text (registeredRole db draft)) ∨
        ∃ draft, operation = createAccount draft ∧ row.cell "role" = .text draft.role
  | .amend l _ _ => l.name = "users" → ∃ id change, operation = updateAccount id change
  | .remove l _ => l.name = "users" → ∃ id, operation = deleteAccount id

theorem May.writesAccount {db : Database} {operation : Operation} {effect : Effect}
    (h : operation.May db effect) : operation.WritesAccount db effect := by
  cases h with
  | nothing => trivial
  | createSchool | updateSchool | deleteSchool | uploadPhoto | createCourse | updateCourse
  | deleteCourse | createReview | updateReview | deleteReview =>
    exact fun hname => absurd hname (by decide)
  | register hrole => exact fun _ => .inl ⟨_, rfl, hrole⟩
  | createAccount hrole => exact fun _ => .inr ⟨_, rfl, hrole⟩
  | updateAccount _ => exact fun _ => ⟨_, _, rfl⟩
  | deleteAccount _ => exact fun _ => ⟨_, rfl⟩

/-- What an operation that answers has done. -/
def Does (around : Surroundings) (db : Database) (operation : Operation) (after : Database) : Prop :=
  ∃ effect, operation.May db effect ∧ effect.Plain ∧ effect.Fits ∧ effect.Leaves around db after

end Operation

namespace Service

variable {around : Surroundings} {db : Database}

/-! ## The effect of each operation -/

/-- An operation that only reads. -/
theorem does_reading {α : Type} {x : Service α} (h : db.Sound) (hx : Reads x) (operation : Operation)
    (answer : α → Datum) :
    Achieves around db (answer <$> x) fun _ after => operation.Does around db after := by
  refine Achieves.map (Achieves.weaken hx.finds ?_)
  rintro _ _ ⟨rfl, _⟩
  exact ⟨.nothing, .nothing, trivial, trivial, Effect.leaves_nothing h⟩

/-- A text that is given for a new account is kept. -/
theorem text_of_added {draft : AccountDraft} {role kept : String} {row : Row}
    (hadds : db.Adds .users .users (newAccount draft role kept) row) {name s : String}
    (hcolumn : ∃ col ∈ Layout.users.columns, col.name = name ∧ col.affinity = .text)
    (hstamp : name ≠ "created_at") (hgiven : (name, .text s) ∈ newAccount draft role kept)
    (honly : ∀ d, (name, d) ∈ newAccount draft role kept → d = .text s) :
    row.cell name = .text s := by
  obtain ⟨col, hcol, rfl, htext⟩ := hcolumn
  obtain ⟨v, hv, hcell⟩ := hadds.cell .users hcol hstamp hgiven honly
  obtain rfl := Except.ok.inj hv
  rw [hcell, htext]
  rfl

theorem role_of_added {draft : AccountDraft} {role kept : String} {row : Row}
    (hadds : db.Adds .users .users (newAccount draft role kept) row) : row.cell "role" = .text role :=
  text_of_added hadds (by decide) (by decide) (by simp [newAccount]) (by simp [newAccount])

theorem email_of_added {draft : AccountDraft} {role kept : String} {row : Row}
    (hadds : db.Adds .users .users (newAccount draft role kept) row) :
    row.cell "email" = .text (Text.lower draft.email) :=
  text_of_added hadds (by decide) (by decide) (by simp [newAccount]) (by simp [newAccount])

theorem does_addAccount (h : db.Sound) {operation : Operation} {draft : AccountDraft}
    {role kept : String} {row : Row}
    (hadds : db.Adds .users .users (newAccount draft role kept) row)
    (hmay : row.cell "role" = .text role → operation.May db (.add .users row)) :
    operation.Does around db (db.grown .users row) :=
  ⟨_, hmay (role_of_added hadds), hadds.plain h .users (ordinary_users _),
    hadds.holds h .users (suiting_newAccount _ _ _), hadds.leaves .users users_plain⟩

theorem owner_column : ∃ col ∈ Layout.schools.columns, col.name = "user_id" ∧
    col.affinity = .integer := by
  decide

/-- A new school is owned by whom its values name. -/
theorem owner_of_added {draft : SchoolDraft} {location : Record} {caller : Caller} {row : Row}
    (h : db.Sound) (hlocation : ∀ d, ("user_id", d) ∉ location)
    (hadds : db.Adds .schools .schools (newSchool draft location caller) row) :
    ∃ u, row.cell "user_id" = .int u ∧ caller.id.Denotes u := by
  obtain ⟨col, hcol, hname, hinteger⟩ := owner_column
  have honly : ∀ d, ("user_id", d) ∈ newSchool draft location caller → d = caller.id := by
    intro d hd
    rcases Record.mem_put hd with hd | hd
    · rcases Record.mem_putAll hd with hd | hd
      · simp [SchoolDraft.record] at hd
      · exact absurd hd (hlocation d)
    · exact (Prod.mk.inj hd).2
  obtain ⟨v, hv, hcell⟩ := hadds.cell .schools hcol (by rw [hname]; decide)
    (hname ▸ Record.mem_put_self _ _ _) (hname ▸ honly)
  obtain ⟨u, hread, _⟩ := read_key hadds.sound .schools isKey_owner
    (mem_grown_self h Kept.schools.mem_standard row)
  have howner : row.cell "user_id" = .int u := hread
  refine ⟨u, howner, v, hv, ?_⟩
  rw [← howner, ← hname, hcell, hinteger]
  rfl

/-- Changing what describes a school leaves its owner. -/
theorem does_describe (h : db.Sound) {operation : Operation} {values : Record} {old row : Row}
    (hamends : db.Amends .schools .schools values old row) (hdescribes : Describes values)
    (hsuiting : Suiting .schools values)
    (hkeeps : ∀ d, ("user_id", d) ∉ values)
    (hmay : row.cell "user_id" = old.cell "user_id" →
      operation.May db (.amend .schools old row)) :
    operation.Does around db (db.amended .schools row) := by
  obtain ⟨col, hcol, hname, _⟩ := owner_column
  have howner := hamends.cell_eq hcol (hname ▸ hkeeps)
  exact ⟨_, hmay (hname ▸ howner),
    hamends.plain hdescribes.ordinary (hdescribes.absent (by decide)),
    hamends.holds h .schools hsuiting, hamends.leaves .schools Aggregate.layout_ne_schools⟩

/-- Every operation does what it may do, or fails and does nothing. -/
theorem effect_of_perform (h : db.Sound) (operation : Operation) :
    Achieves around db operation.perform fun _ after => operation.Does around db after := by
  cases operation with
  | listSchools params => exact does_reading h (spares_answer _ _ _) _ _
  | getSchool id => exact does_reading h (spares_getSchool id) _ _
  | createSchool draft caller =>
    refine Achieves.map ((achieves_createSchool h draft caller).weaken ?_)
    rintro _ after ⟨hallowed, location, row, hlocation, hadds, rfl, _⟩
    exact ⟨_, .createSchool hallowed (owner_of_added h hlocation.no_owner hadds),
      hadds.plain h .schools (describes_new draft hlocation.describes caller).ordinary,
      hadds.holds h .schools (suiting_newSchool draft hlocation.suiting caller),
      hadds.leaves .schools Aggregate.layout_ne_schools⟩
  | updateSchool id change caller =>
    refine Achieves.map ((achieves_updateSchool h id change caller).weaken ?_)
    rintro _ after ⟨old, row, values, hold, hvalues, hamends, rfl, _⟩
    exact does_describe h hamends hvalues.describes hvalues.suiting hvalues.no_owner
      (.updateSchool hold)
  | deleteSchool id caller =>
    refine Achieves.map ((achieves_deleteSchool h id caller).weaken ?_)
    rintro _ after ⟨old, hold, hdeleted⟩
    refine ⟨_, .deleteSchool hold, trivial, trivial, after, .remove .schools hold.mem hdeleted, ?_⟩
    exact .none (hdeleted.sound h) fun a s => not_dueForDeletion_school
  | schoolsInRadius zipcode radius =>
    exact does_reading h (spares_inRadius lasting_database zipcode radius) _ _
  | uploadPhoto id filename contentType content caller =>
    refine Achieves.map ((achieves_uploadPhoto h id filename contentType content caller).weaken ?_)
    rintro _ after ⟨old, hold, ⟨_, rfl⟩ | ⟨row, hamends, rfl⟩⟩
    · exact ⟨.nothing, .nothing, trivial, trivial, Effect.leaves_nothing h⟩
    · exact does_describe h hamends (describes_photo _) (suiting_photo _) (by simp) (.uploadPhoto hold)
  | listCourses params => exact does_reading h (spares_answer _ _ _) _ _
  | coursesOfSchool school => exact does_reading h (spares_find _ _) _ _
  | getCourse id => exact does_reading h (spares_getCourse id) _ _
  | createCourse school draft caller =>
    refine Achieves.map ((achieves_createCourse h school draft caller).weaken ?_)
    rintro _ after ⟨owner, row, hold, hadds, hcell, hleaves, _⟩
    exact ⟨_, .createCourse hold hcell, hadds.plain h .courses (ordinary_courses _),
      hadds.holds h .courses (suiting_addressed .cost (suiting_courseDraft draft) school caller), hleaves⟩
  | updateCourse id change caller =>
    refine Achieves.map ((achieves_updateCourse h id change caller).weaken ?_)
    rintro _ after ⟨old, row, hold, hamends, hleaves, _⟩
    exact ⟨_, .updateCourse hold, hamends.plain (ordinary_courses _) (no_school_courseChange change),
      hamends.holds h .courses (suiting_courseChange change), hleaves⟩
  | deleteCourse id caller =>
    refine Achieves.map ((achieves_deleteCourse h id caller).weaken ?_)
    rintro _ after ⟨old, hold, hleaves⟩
    exact ⟨_, .deleteCourse hold, trivial, trivial, hleaves⟩
  | listReviews params => exact does_reading h (spares_answer _ _ _) _ _
  | reviewsOfSchool school => exact does_reading h (spares_find _ _) _ _
  | getReview id => exact does_reading h (spares_getReview id) _ _
  | createReview school draft caller =>
    refine Achieves.map ((achieves_createReview h school draft caller).weaken ?_)
    rintro _ after ⟨reviewed, row, hreviewed, hs, hadds, hcell, hleaves, _⟩
    exact ⟨_, .createReview hreviewed hs hcell,
      hadds.plain h .reviews (ordinary_reviews (whole_reviewDraft draft school caller)),
      hadds.holds h .reviews (suiting_addressed .rating (suiting_reviewDraft draft) school caller),
      hleaves⟩
  | updateReview id change caller =>
    refine Achieves.map ((achieves_updateReview h id change caller).weaken ?_)
    rintro _ after ⟨old, row, hold, hamends, hleaves, _⟩
    exact ⟨_, .updateReview hold,
      hamends.plain (ordinary_reviews (whole_reviewChange change)) (no_school_reviewChange change),
      hamends.holds h .reviews (suiting_reviewChange change), hleaves⟩
  | deleteReview id caller =>
    refine Achieves.map ((achieves_deleteReview h id caller).weaken ?_)
    rintro _ after ⟨old, hold, hleaves⟩
    exact ⟨_, .deleteReview hold, trivial, trivial, hleaves⟩
  | register draft =>
    refine Achieves.map ((achieves_register h draft).weaken ?_)
    rintro _ after ⟨kept, row, _, hadds, rfl, _⟩
    exact does_addAccount h hadds .register
  | createAccount draft =>
    refine Achieves.map ((achieves_addAccount h draft draft.role).weaken ?_)
    rintro _ after ⟨kept, row, _, hadds, rfl, _⟩
    exact does_addAccount h hadds .createAccount
  | authenticate email password =>
    exact does_reading h (spares_authenticate lasting_database email password) _ _
  | listAccounts params => exact does_reading h (spares_answer _ _ _) _ _
  | getAccount id => exact does_reading h (spares_getAccount id) _ _
  | updateAccount id change =>
    refine Achieves.map ((achieves_updateAccount h id change).weaken ?_)
    rintro _ after ⟨old, row, values, hid, hvalues, hamends, rfl, _⟩
    exact ⟨_, .updateAccount hid, hamends.plain (ordinary_users _) (hvalues.absent (by decide)),
      hamends.holds h .users hvalues.suiting, hamends.leaves .users users_plain⟩
  | deleteAccount id =>
    refine Achieves.map ((achieves_deleteAccount h id).weaken ?_)
    rintro _ after ⟨old, _, hid, hleaves⟩
    exact ⟨_, .deleteAccount hid, trivial, trivial, hleaves⟩

end Service

namespace Operation

variable {state : State} {request : Surroundings × Operation}

/-! ## Steps and runs -/

/-- A step does nothing, or what is known of its operation when that answers. -/
theorem step_of_achieves {request : Surroundings × Operation} {done : Datum → Database → Prop}
    (hdone : Achieves request.1 state.database request.2.perform done) :
    (step state request).database = state.database ∨
      ∃ answer, done answer (step state request).database := by
  have hstep := hdone state rfl
  unfold step
  cases hresult : (Service.run request.2.perform request.1 state).1 with
  | error failure =>
    rw [hresult] at hstep
    exact .inl hstep
  | ok answer =>
    rw [hresult] at hstep
    exact .inr ⟨answer, hstep⟩

/-- A step does what its operation may do, or nothing. -/
theorem effect_of_step (h : state.database.Sound) (request : Surroundings × Operation) :
    request.2.Does request.1 state.database (step state request).database := by
  rcases step_of_achieves (effect_of_perform h request.2) with hsame | ⟨_, hdone⟩
  · rw [hsame]
    exact ⟨.nothing, .nothing, trivial, trivial, Effect.leaves_nothing h⟩
  · exact hdone

theorem sound_step (h : state.database.Sound) (request : Surroundings × Operation) :
    (step state request).database.Sound := by
  obtain ⟨effect, _, _, _, hleaves⟩ := effect_of_step h request
  exact hleaves.sound

/-- The database is sound in every run. -/
theorem sound_run (h : state.database.Sound) (requests : List (Surroundings × Operation)) :
    (runAll state requests).database.Sound := by
  induction requests generalizing state with
  | nil => exact h
  | cons request rest ih => exact ih (sound_step h request)

/-- What columns hold is kept in every run. -/
theorem holds_run (h : state.database.Sound) (hholds : state.database.Holds)
    (requests : List (Surroundings × Operation)) : (runAll state requests).database.Holds := by
  induction requests generalizing state with
  | nil => exact hholds
  | cons request rest ih =>
    obtain ⟨effect, _, _, hfits, hleaves⟩ := effect_of_step h request
    exact ih (sound_step h request) (hleaves.holds h hholds hfits)

theorem handedOut_run (h : state.database.Sound) (requests : List (Surroundings × Operation))
    (name : String) : state.database.greatestHandedOut name ≤
      (runAll state requests).database.greatestHandedOut name := by
  induction requests generalizing state with
  | nil => exact Int.le_refl _
  | cons request rest ih =>
    obtain ⟨effect, _, _, _, hleaves⟩ := effect_of_step h request
    exact Int.le_trans (hleaves.handedOut_le name) (ih (sound_step h request))

/-- No run brings an identity back: one that was handed out and is there after it was there before. -/
theorem id_of_run (h : state.database.Sound) (requests : List (Surroundings × Operation)) {l : Layout}
    (hl : l ∈ Layout.standard) {row : Row} (hrow : row ∈ (runAll state requests).database.rows l.name)
    (hold : row.id ≤ state.database.greatestHandedOut l.name) :
    ∃ before ∈ state.database.rows l.name, before.id = row.id := by
  induction requests generalizing state with
  | nil => exact ⟨row, hrow, rfl⟩
  | cons request rest ih =>
    obtain ⟨effect, _, _, _, hleaves⟩ := effect_of_step h request
    obtain ⟨mid, hmid, hid⟩ := ih (sound_step h request) hrow
      (Int.le_trans hold (hleaves.handedOut_le l.name))
    rcases hleaves.id_new h hl hmid with ⟨before, hbefore, hsame⟩ | hnew
    · exact ⟨before, hbefore, hsame.trans hid⟩
    · exact absurd hold (Int.not_le.2 (hid ▸ hnew))

/-- A step follows the averages. -/
theorem follows_step (h : state.database.Current) (working : request.1.losesUpdates = false) :
    state.database.Follows (step state request).database := by
  obtain ⟨effect, _, hplain, _, hleaves⟩ := effect_of_step h.sound request
  exact hleaves.follows h working hplain

end Operation

end SchoolCatalog
