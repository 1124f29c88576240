import SchoolCatalog.Proofs.Service.Runs

/-!
# Stored files

What a failure leaves behind. An operation that fails leaves the records, the identities that come next
and the stored files as they are, but for one slip: an upload stores its file before it records the name,
and a name that has bytes for a file but is no text cannot be recorded. Such an upload is stranded.

Results:
1. `spares_createSchool` to `spares_deleteAccount`: no operation but an upload touches the files.
2. `stores_or_refused`, `Stores.answered`, `Stores.stranded`: an upload is refused and does nothing, or it
   stores its file and is answered, if its name is a text, or stranded.
3. `uploads_of_step`: a step stores one file or leaves all as they are.
4. `kept_of_failed`: after a failure all is as it was, unless an upload is stranded.
5. `file_of_stranded`: an upload fails and leaves its file.
-/

namespace SchoolCatalog

open Store Store.Database

namespace Service

variable {around : Surroundings} {state : State}

/-- The operation leaves the stored files as they are. -/
abbrev SparesFiles {α : Type} (x : Service α) : Prop := Spares State.uploads x

/-! ## Writing records -/

theorem spares_insert (c : Collection) (values : Record) :
    SparesFiles (({} : Store).insert c values) := by
  intro around state
  rw [run_insert]
  cases stamp? (around.instant state.stamps) with
  | none => rfl
  | some stamp =>
    dsimp only
    cases state.database.insert c (stamped c values stamp) <;> rfl

theorem spares_delete (c : Collection) (id : Datum) : SparesFiles (({} : Store).delete c id) := by
  intro around state
  rw [run_delete]
  cases state.database.delete c id <;> rfl

/-! ## Averages -/

theorem spares_compute (a : Aggregate) (school : Datum) : SparesFiles (a.compute school {}) := by
  unfold Aggregate.compute
  refine (spares_find _ _).bind fun records => (spares_ofExcept _).bind fun mean => ?_
  cases mean with
  | none => exact spares_pure _
  | some mean => exact (spares_ofExcept _).map

theorem spares_refresh (a : Aggregate) (school : Datum) : SparesFiles (a.refresh school {}) := by
  unfold Aggregate.refresh Aggregate.refreshBy Aggregate.write
  refine (spares_compute a school).bind fun average => ?_
  cases average with
  | none => exact spares_log lasting_uploads _ _
  | some value =>
    refine (spares_update apart_uploads _ _ _).bind fun written => ?_
    cases written with
    | none => exact spares_log lasting_uploads _ _
    | some record => exact spares_info lasting_uploads _

theorem spares_recompute (a : Aggregate) (school : Datum) :
    SparesFiles (a.recompute school {}) := by
  unfold Aggregate.recompute Aggregate.settle
  refine (spares_refresh a school).attempt.bind fun result => ?_
  cases result with
  | error failure => exact spares_log lasting_uploads _ _
  | ok done => exact spares_pure _

/-- What comes after a write: a line of the log, and the average. -/
theorem spares_finish (a : Aggregate) (school : Datum) (text : String) :
    SparesFiles (do
      Service.info text
      a.recompute school {}) :=
  (spares_info lasting_uploads _).bind fun _ => spares_recompute a school

theorem spares_finish_return (a : Aggregate) (school : Datum) (text : String) (record : Record) :
    SparesFiles (do
      Service.info text
      a.recompute school {}
      return record) :=
  (spares_info lasting_uploads _).bind fun _ => (spares_recompute a school).bind fun _ =>
    spares_pure _

theorem spares_addTo (a : Aggregate) (school : Datum) {inserted : Service Record}
    (hinserted : SparesFiles inserted) (text : Record → String) :
    SparesFiles (addTo a school inserted text) :=
  hinserted.bind fun _ => spares_finish_return a school _ _

/-! ## Schools -/

theorem spares_locationOf (address : Wording) : SparesFiles (Schools.locationOf address) := by
  unfold Schools.locationOf
  refine spares_surroundings.bind fun around => ?_
  split
  · exact spares_pure _
  · refine (spares_locate lasting_uploads _ _).attempt.bind fun result => ?_
    split
    · exact spares_pure _
    · exact (spares_log lasting_uploads _ _).bind fun _ => spares_pure _
    · exact spares_fail _

theorem spares_publish (draft : SchoolDraft) (caller : Caller) :
    SparesFiles (publishAllowed draft caller) := by
  refine (spares_locationOf _).bind fun location => ?_
  refine ((spares_insert _ _).wording fun _ => spares_fail _).bind fun school => ?_
  exact (spares_info lasting_uploads _).bind fun _ => spares_pure _

theorem spares_createSchool (draft : SchoolDraft) (caller : Caller) :
    SparesFiles (Schools.create draft caller) := by
  rw [create_eq]
  split
  · exact spares_publish draft caller
  · refine (spares_findOne _ _ _).bind fun found => ?_
    split
    · exact spares_fail _
    · exact spares_publish draft caller

theorem spares_changedSchool (change : SchoolChange) (school : Record) :
    SparesFiles (Schools.changedValues change school) := by
  unfold Schools.changedValues
  split
  · exact spares_pure _
  · split
    · exact spares_pure _
    · exact (spares_locationOf _).bind fun location => spares_pure _

theorem spares_updateSchool (id : Datum) (change : SchoolChange) (caller : Caller) :
    SparesFiles (Schools.update id change caller) := by
  unfold Schools.update
  refine (spares_getSchool id).bind fun school => (spares_ofExcept _).bind fun _ => ?_
  refine (spares_changedSchool _ _).bind fun values => ?_
  refine ((spares_update apart_uploads _ _ _).wording fun _ => spares_fail _).bind fun updated => ?_
  cases updated with
  | none => exact spares_fail _
  | some school => exact (spares_info lasting_uploads _).bind fun _ => spares_pure _

theorem spares_deleteSchool (id : Datum) (caller : Caller) :
    SparesFiles (Schools.delete id caller) := by
  unfold Schools.delete
  refine (spares_getSchool id).bind fun school => (spares_ofExcept _).bind fun _ => ?_
  exact (spares_delete _ _).bind fun _ => spares_info lasting_uploads _

/-! ## Courses and reviews -/

theorem spares_createCourse (school : Datum) (draft : CourseDraft) (caller : Caller) :
    SparesFiles (Courses.create school draft caller) := by
  unfold Courses.create
  refine (spares_getRecord _ _ _).bind fun found => ?_
  cases found with
  | none => exact spares_fail _
  | some owner =>
    exact (spares_ofExcept _).bind fun _ => spares_addTo .cost school (spares_insert _ _) _

theorem spares_updateCourse (id : Datum) (change : CourseChange) (caller : Caller) :
    SparesFiles (Courses.update id change caller) := by
  unfold Courses.update
  refine (spares_findCourse id).bind fun course => (spares_ofExcept _).bind fun _ => ?_
  refine (spares_update apart_uploads _ _ _).bind fun updated => ?_
  cases updated with
  | none => exact spares_fail _
  | some course => exact spares_finish_return .cost _ _ _

theorem spares_deleteCourse (id : Datum) (caller : Caller) :
    SparesFiles (Courses.delete id caller) := by
  unfold Courses.delete
  refine (spares_findCourse id).bind fun course => (spares_ofExcept _).bind fun _ => ?_
  exact (spares_delete _ _).bind fun _ => spares_finish .cost _ _

theorem spares_createReview (school : Datum) (draft : ReviewDraft) (caller : Caller) :
    SparesFiles (Reviews.create school draft caller) := by
  have hinsert (values : Record) (text : Violation → String) (failure : Failure) :
      SparesFiles (Service.wording (({} : Store).insert .reviews values) fun violation => do
        Service.info (text violation)
        Service.fail failure) :=
    (spares_insert _ values).wording fun _ =>
      (spares_info lasting_uploads _).bind fun _ => spares_fail _
  unfold Reviews.create
  refine (spares_getRecord _ _ _).bind fun found => ?_
  split
  · exact (spares_fail _).bind fun _ => spares_addTo .rating school (hinsert _ _ _) _
  · exact spares_addTo .rating school (hinsert _ _ _) _

theorem spares_updateReview (id : Datum) (change : ReviewChange) (caller : Caller) :
    SparesFiles (Reviews.update id change caller) := by
  unfold Reviews.update
  refine (spares_findReview id).bind fun review => (spares_ofExcept _).bind fun _ => ?_
  refine (spares_update apart_uploads _ _ _).bind fun updated => ?_
  cases updated with
  | none => exact spares_fail _
  | some review => exact spares_finish_return .rating _ _ _

theorem spares_deleteReview (id : Datum) (caller : Caller) :
    SparesFiles (Reviews.delete id caller) := by
  unfold Reviews.delete
  refine (spares_findReview id).bind fun review => (spares_ofExcept _).bind fun _ => ?_
  exact (spares_delete _ _).bind fun _ => spares_finish .rating _ _

/-! ## Accounts -/

theorem spares_keepPassword (password : String) : SparesFiles (Accounts.keepPassword password) :=
  (spares_nextSalt lasting_uploads).bind fun _ => spares_surroundings.bind fun _ => spares_ofExcept _

theorem spares_addAccount (draft : AccountDraft) (role : String) :
    SparesFiles (Accounts.add draft role) := by
  unfold Accounts.add
  refine (spares_info lasting_uploads _).bind fun _ => ?_
  exact (spares_keepPassword _).bind fun password =>
    (spares_insert _ _).wording fun _ => spares_fail _

theorem spares_register (draft : AccountDraft) : SparesFiles (Accounts.register draft) :=
  (spares_count _ _).bind fun _ => spares_addAccount _ _

theorem spares_changedAccount (change : AccountChange) :
    SparesFiles (Accounts.changedValues change) := by
  unfold Accounts.changedValues
  split
  · exact (spares_keepPassword _).map.bind fun password => spares_pure _
  · exact (spares_pure _).bind fun password => spares_pure _

theorem spares_updateAccount (id : Datum) (change : AccountChange) :
    SparesFiles (Accounts.update id change) := by
  unfold Accounts.update
  refine (spares_changedAccount change).bind fun values => ?_
  refine ((spares_update apart_uploads _ _ _).wording fun _ => spares_fail _).bind fun updated => ?_
  cases updated with
  | none => exact spares_fail _
  | some user => exact spares_pure _

theorem spares_recomputeAll (a : Aggregate) (schools : List Int) :
    SparesFiles (forIn schools PUnit.unit fun s _ => do
      a.recompute (.int s) {}
      pure (ForInStep.yield PUnit.unit)) :=
  Spares.forIn (fun _ _ => (spares_recompute a _).bind fun _ => spares_pure _) schools _

theorem spares_deleteAccount (id : Datum) : SparesFiles (Accounts.delete id) := by
  unfold Accounts.delete
  refine (spares_getAccount id).bind fun _ => (spares_find _ _).bind fun schools => ?_
  refine (spares_find _ _).bind fun courses => (spares_find _ _).bind fun reviews => ?_
  refine (spares_delete _ _).bind fun _ => (spares_info lasting_uploads _).bind fun _ => ?_
  exact (spares_recomputeAll .cost _).bind fun _ => (spares_recomputeAll .rating _).bind fun _ =>
    spares_pure _

/-! ## Photos -/

theorem spares_recordPhoto (id : Datum) (name : Wording) :
    SparesFiles (Schools.recordPhoto id name) :=
  (spares_update apart_uploads _ _ _).bind fun _ => (spares_info lasting_uploads _).bind fun _ => spares_pure _

variable {id : Datum} {filename : Option Wording} {contentType : Option String} {content file : Bytes}
  {caller : Caller}

theorem quiet_photoFile :
    Quiet (Schools.photoFile id filename contentType content caller) := by
  unfold Schools.photoFile
  refine (spares_getSchool id).bind fun school => (spares_ofExcept _).bind fun _ => ?_
  exact spares_surroundings.bind fun _ => (spares_ofExcept _).bind fun _ => spares_ofExcept _

/-- An upload that is let through finds its file. -/
theorem Stores.run_photoFile (h : state.database.Sound)
    (hstores : Stores around state.database id filename contentType content caller file) :
    (run (Schools.photoFile id filename contentType content caller) around state).1 = .ok file := by
  obtain ⟨old, hold⟩ := hstores.allowed
  have hschool : run (Schools.get id) around state =
      (.ok (old.record .schools .schools), state) := by
    have hrecord := record?_of_denotes h .schools hold.mem hold.denotes none
    unfold Schools.get
    rw [run_bind, run_getRecord, hrecord]
    rfl
  have howner : caller.ensureOwner (old.record .schools .schools) "update this school" = .ok () :=
    if_pos hold.mayChange
  simp only [Schools.photoFile, run_bind, hschool, howner, run_ofExcept, run_read, hstores.admitted,
    hstores.named]

/-- An upload stores a file and records its name if it is let through, and else does nothing. -/
theorem run_uploadPhoto :
    run (Schools.uploadPhoto id filename contentType content caller) around state =
      match (run (Schools.photoFile id filename contentType content caller) around state).1 with
      | .ok file => run (Schools.recordPhoto id (Schools.photoName id filename)) around
          { state with uploads := Schools.writeFile state.uploads file content }
      | .error failure => (.error failure, state) := by
  unfold Schools.uploadPhoto
  rw [run_quiet_bind quiet_photoFile]
  cases (run (Schools.photoFile id filename contentType content caller) around state).1 <;> rfl

/-! ## Recording the name of a photo -/

/-- The column that keeps the name of a school's photo. -/
def photo : Column := { Layout.must "photo" .text with default := .text "no-photo.jpg" }

theorem photo_mem : photo ∈ Layout.schools.columns := by
  simp [photo, Layout.schools, Layout.must, Layout.may]

theorem photo_free : Layout.schools.IsFree photo := ⟨rfl, by decide, by decide⟩

theorem writable_photo (d : Datum) : writable .schools [("photo", d)] = [("photo", d)] := rfl

/-- Recording a name answers with it if the record can be written. -/
theorem run_recordPhoto (id : Datum) (name : Wording) :
    (run (Schools.recordPhoto id name) around state).1 =
      (run (({} : Store).update .schools id [("photo", .ofWording name)]) around state).1.map
        fun _ => name := by
  unfold Schools.recordPhoto
  rw [run_bind]
  rcases run (({} : Store).update .schools id [("photo", .ofWording name)]) around state with
    ⟨_ | _, _⟩ <;> rfl

/-- A name that is a text can be recorded for a school that is there. -/
theorem run_recordPhoto_text {db : Database} (h : db.Sound) {old : Row}
    (hold : Allows db .schools .schools caller id old) (text : String)
    (hstate : state.database = db) :
    (run (Schools.recordPhoto id (.proper text)) around state).1 = .ok (.proper text) := by
  subst hstate
  rw [run_recordPhoto]
  cases hloses : around.losesUpdates with
  | true =>
    rw [run_update_lost _ hloses]
    rfl
  | false =>
    obtain ⟨row, hid, _, _, hupdate⟩ := update_free h .schools photo_mem photo_free hold.mem
      hold.denotes (rfl : Cell.bind (.text text) = .ok (.text text)) fun _ => rfl
    have hsound := sound_of_update h .schools (forColumns_single .schools photo_mem _) hupdate
    have hrecord := record?_of_denotes hsound .schools
      (mem_amended_self h Kept.schools.mem_standard hold.mem hid) (hid.symm ▸ hold.denotes) none
    rw [run_update _ hloses, writable_photo, List.isEmpty_cons, if_neg Bool.false_ne_true,
      Datum.ofWording, show state.database.update .schools id [("photo", .text text)] = _ from hupdate]
    dsimp only
    rw [if_pos rfl, hrecord]
    rfl

/-- A name that is no text cannot be recorded. -/
theorem run_recordPhoto_broken {db : Database} (h : db.Sound)
    (working : around.losesUpdates = false) (id : Datum) (points : List Nat)
    (hstate : state.database = db) :
    (run (Schools.recordPhoto id (.broken points)) around state).1 =
      .error (.unencodable (Wording.unpairedHalf points)) := by
  subst hstate
  have hupdate : state.database.update .schools id [("photo", .broken points)] = _ :=
    update_unbindable h .schools photo_mem id rfl
  rw [run_recordPhoto, run_update _ working, writable_photo, List.isEmpty_cons,
    if_neg Bool.false_ne_true, Datum.ofWording, hupdate]
  rfl

/-! ## What uploads answer -/

/-- An upload is let through, or it is refused and does nothing. -/
theorem stores_or_refused (h : state.database.Sound) (id : Datum) (filename : Option Wording)
    (contentType : Option String) (content : Bytes) (caller : Caller) :
    (∃ file, Stores around state.database id filename contentType content caller file) ∨
      ∃ failure, run (Schools.uploadPhoto id filename contentType content caller) around state =
        (.error failure, state) := by
  have hfile := @finds_photoFile around state.database h id filename contentType content caller state rfl
  rw [run_uploadPhoto]
  cases hrun : (run (Schools.photoFile id filename contentType content caller) around state).1 with
  | error failure => exact .inr ⟨failure, rfl⟩
  | ok file =>
    rw [hrun] at hfile
    exact .inl ⟨file, hfile.2⟩

/-- An upload that is let through is answered with its name if that is a text. -/
theorem Stores.answered (h : state.database.Sound)
    (hstores : Stores around state.database id filename contentType content caller file) {text : String}
    (hname : Schools.photoName id filename = .proper text) :
    (run (Schools.uploadPhoto id filename contentType content caller) around state).1 =
      .ok (.proper text) := by
  obtain ⟨old, hold⟩ := hstores.allowed
  rw [run_uploadPhoto, hstores.run_photoFile h, hname]
  exact run_recordPhoto_text h hold text rfl

/-- An upload that is let through fails if its name is no text, where updates do not get lost. -/
theorem Stores.stranded (h : state.database.Sound) (working : around.losesUpdates = false)
    (hstores : Stores around state.database id filename contentType content caller file)
    {points : List Nat} (hname : Schools.photoName id filename = .broken points) :
    (run (Schools.uploadPhoto id filename contentType content caller) around state).1 =
      .error (.unencodable (Wording.unpairedHalf points)) := by
  rw [run_uploadPhoto, hstores.run_photoFile h, hname]
  exact run_recordPhoto_broken h working id points rfl

end Service

open Service

namespace Operation

variable {around : Surroundings} {state : State}

/-- An operation that is no upload leaves the stored files as they are. -/
theorem spares_perform (operation : Operation)
    (hother : ∀ id filename contentType content caller,
      operation ≠ .uploadPhoto id filename contentType content caller) :
    SparesFiles operation.perform := by
  cases operation with
  | listSchools | listCourses | listReviews | listAccounts => exact (spares_answer _ _ _).map
  | coursesOfSchool | reviewsOfSchool => exact (spares_find _ _).map
  | getSchool id => exact (spares_getSchool id).map
  | getCourse id => exact (spares_getCourse id).map
  | getReview id => exact (spares_getReview id).map
  | getAccount id => exact (spares_getAccount id).map
  | schoolsInRadius zipcode radius => exact (spares_inRadius lasting_uploads zipcode radius).map
  | authenticate email password => exact (spares_authenticate lasting_uploads email password).map
  | createSchool draft caller => exact (spares_createSchool draft caller).map
  | updateSchool id change caller => exact (spares_updateSchool id change caller).map
  | deleteSchool id caller => exact (spares_deleteSchool id caller).map
  | uploadPhoto id filename contentType content caller => exact absurd rfl (hother _ _ _ _ _)
  | createCourse school draft caller => exact (spares_createCourse school draft caller).map
  | updateCourse id change caller => exact (spares_updateCourse id change caller).map
  | deleteCourse id caller => exact (spares_deleteCourse id caller).map
  | createReview school draft caller => exact (spares_createReview school draft caller).map
  | updateReview id change caller => exact (spares_updateReview id change caller).map
  | deleteReview id caller => exact (spares_deleteReview id caller).map
  | register draft => exact (spares_register draft).map
  | createAccount draft => exact (spares_addAccount draft draft.role).map
  | updateAccount id change => exact (spares_updateAccount id change).map
  | deleteAccount id => exact (spares_deleteAccount id).map

/-- The operation is an upload that is let through and stores its content in a file, under a name that
is no text. -/
inductive Strands (around : Surroundings) (db : Database) : Operation → Bytes → Bytes → Prop
  | uploadPhoto {id : Datum} {filename : Option Wording} {contentType : Option String}
      {content file : Bytes} {caller : Caller} {points : List Nat} :
      Stores around db id filename contentType content caller file →
      Schools.photoName id filename = .broken points →
      Strands around db (uploadPhoto id filename contentType content caller) file content

/-- The operation fails. -/
def Fails (around : Surroundings) (state : State) (operation : Operation) : Prop :=
  ∃ failure, (Service.run operation.perform around state).1 = .error failure

instance (around : Surroundings) (state : State) (operation : Operation) :
    Decidable (operation.Fails around state) :=
  match h : (Service.run operation.perform around state).1 with
  | .error failure => isTrue ⟨failure, h⟩
  | .ok _ => isFalse fun ⟨_, hfailure⟩ => nomatch h.symm.trans hfailure

theorem step_uploadPhoto (id : Datum) (filename : Option Wording) (contentType : Option String)
    (content : Bytes) (caller : Caller) :
    step state (around, uploadPhoto id filename contentType content caller) =
      (Service.run (Schools.uploadPhoto id filename contentType content caller) around state).2 := by
  show (Service.run (Datum.ofWording <$> Schools.uploadPhoto id filename contentType content caller)
    around state).2 = _
  rw [run_map]

theorem not_fails_of_answered {id : Datum} {filename : Option Wording} {contentType : Option String}
    {content : Bytes} {caller : Caller} {name : Wording}
    (hrun : (Service.run (Schools.uploadPhoto id filename contentType content caller) around state).1 =
      .ok name) : ¬ (uploadPhoto id filename contentType content caller).Fails around state := by
  rintro ⟨failure, hfailure⟩
  rw [perform, run_map, hrun] at hfailure
  exact nomatch hfailure

/-- An upload that is let through stores its file, whatever comes of recording the name. -/
theorem uploads_of_stores (h : state.database.Sound) {id : Datum} {filename : Option Wording}
    {contentType : Option String} {content file : Bytes} {caller : Caller}
    (hstores : Stores around state.database id filename contentType content caller file) :
    (step state (around, uploadPhoto id filename contentType content caller)).uploads =
      Schools.writeFile state.uploads file content := by
  rw [step_uploadPhoto, run_uploadPhoto, hstores.run_photoFile h]
  exact spares_recordPhoto _ _ _ _

/-- The operation is an upload that is let through and stores its content in a file. -/
inductive Writes (around : Surroundings) (db : Database) : Operation → Bytes → Bytes → Prop
  | uploadPhoto {id : Datum} {filename : Option Wording} {contentType : Option String}
      {content file : Bytes} {caller : Caller} :
      Stores around db id filename contentType content caller file →
      Writes around db (uploadPhoto id filename contentType content caller) file content

theorem upload_or_other (operation : Operation) :
    (∃ id filename contentType content caller,
      operation = .uploadPhoto id filename contentType content caller) ∨
    ∀ id filename contentType content caller,
      operation ≠ .uploadPhoto id filename contentType content caller := by
  by_cases h : ∃ id filename contentType content caller,
      operation = .uploadPhoto id filename contentType content caller
  · exact .inl h
  · exact .inr fun _ _ _ _ _ heq => h ⟨_, _, _, _, _, heq⟩

/-- A step stores a content in one file, or leaves all files as they are. -/
theorem uploads_of_step (h : state.database.Sound) (request : Surroundings × Operation) :
    (∃ file content, request.2.Writes request.1 state.database file content ∧
      (step state request).uploads = Schools.writeFile state.uploads file content) ∨
    (step state request).uploads = state.uploads := by
  obtain ⟨around, operation⟩ := request
  rcases upload_or_other operation with ⟨id, filename, contentType, content, caller, rfl⟩ | hother
  · rcases @stores_or_refused around state h id filename contentType content caller with
      ⟨file, hstores⟩ | ⟨failure, hrefused⟩
    · exact .inl ⟨file, content, .uploadPhoto hstores, uploads_of_stores h hstores⟩
    · rw [step_uploadPhoto, hrefused]
      exact .inr rfl
  · exact .inr (spares_perform operation hother around state)

/-- An operation that fails leaves the files as they are, unless it is a stranded upload. -/
theorem uploads_of_fails (h : state.database.Sound) {operation : Operation}
    (hfails : operation.Fails around state)
    (hnot : ∀ file content, ¬ operation.Strands around state.database file content) :
    (step state (around, operation)).uploads = state.uploads := by
  rcases uploads_of_step h (around, operation) with ⟨file, content, hwrites, _⟩ | hsame
  · obtain @⟨id, filename, contentType, _, _, caller, hstores⟩ := hwrites
    -- the file is stored, so that recording its name has to fail, and the name is no text
    cases hname : Schools.photoName id filename with
    | broken points => exact absurd (.uploadPhoto hstores hname) (hnot file content)
    | proper text => exact absurd hfails (not_fails_of_answered (hstores.answered h hname))
  · exact hsame

/-- A stranded upload fails where updates do not get lost. -/
theorem fails_of_strands (h : state.database.Sound) {operation : Operation} {file content : Bytes}
    (hstrands : operation.Strands around state.database file content)
    (working : around.losesUpdates = false) : operation.Fails around state := by
  cases hstrands with
  | @uploadPhoto id filename contentType content file caller points hstores hname =>
    refine ⟨.unencodable (Wording.unpairedHalf points), ?_⟩
    rw [perform, run_map, hstores.stranded h working hname]
    rfl

/-! ## Results -/

/-- An upload for the school, under a name that ends in two halves of pairs. As the name of a file they
stand for the bytes of an accented letter, but they are no text. -/
def halved : Operation :=
  .uploadPhoto (.int 1) (some (.broken [0x61, 0x2E, 0xDCC3, 0xDCA9])) (some "image/png") [1, 2, 3] admin

/-- After every run, an operation that fails leaves the records of all tables and the identities that
come next as they were, and the stored files too, unless it is an upload that is stranded. Where updates
do not get lost, a stranded upload always fails, and leaves its file. -/
theorem kept_of_failed (requests : List (Surroundings × Operation)) (around : Surroundings)
    (operation : Operation) :
    let before := runAll .fresh requests
    let after := step before (around, operation)
    (operation.Fails around before → after.database = before.database ∧
      ((∀ file content, ¬ operation.Strands around before.database file content) →
        after.uploads = before.uploads)) ∧
    ∀ file content, operation.Strands around before.database file content →
      (around.losesUpdates = false → operation.Fails around before) ∧
        after.uploads = Schools.writeFile before.uploads file content := by
  intro before after
  have hsound : before.database.Sound := sound_run sound_fresh requests
  constructor
  · intro hfails
    refine ⟨?_, uploads_of_fails hsound hfails⟩
    obtain ⟨failure, hfailure⟩ := hfails
    exact Achieves.of_failed (effect_of_perform hsound operation) rfl hfailure
  · rintro file content ⟨hstores, hname⟩
    exact ⟨fails_of_strands hsound (.uploadPhoto hstores hname), uploads_of_stores hsound hstores⟩

theorem kept_of_missing :
    let before := runAll .fresh opening
    let after := step before (calm, .deleteSchool (.int 2) admin)
    (deleteSchool (.int 2) admin).Fails calm before ∧ after.database = before.database ∧
      after.uploads = before.uploads := by
  intro before after
  have hfails : (deleteSchool (.int 2) admin).Fails calm before := by decide +kernel
  obtain ⟨hdatabase, huploads⟩ := (kept_of_failed opening calm (.deleteSchool (.int 2) admin)).1 hfails
  exact ⟨hfails, hdatabase, huploads fun file content hstrands => nomatch hstrands⟩

/-- An upload fails and leaves its file. -/
theorem file_of_stranded :
    let before := runAll .fresh opening
    halved.Fails calm before ∧ before.uploads = [] ∧
      (step before (calm, halved)).uploads = [(Bytes.ofText "photo_1.é", [1, 2, 3])] := by
  decide +kernel

end Operation

end SchoolCatalog
