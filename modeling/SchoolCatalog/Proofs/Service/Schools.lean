import SchoolCatalog.Proofs.Json.Values
import SchoolCatalog.Proofs.Service.Writes

/-!
# Operations on schools

What each operation on schools achieves. The values that are written come from the draft or the change,
from the location of the address and from the caller; none of them is an average, which only recomputing
writes. A publisher who has a school publishes no other, and only its owner or an admin changes a school.

Results:
1. `finds_locationOf`, `finds_changedSchool`: the values that are written.
2. `create_eq`: who may publish a school, apart from what publishing does.
3. `achieves_createSchool`, `achieves_updateSchool`, `achieves_deleteSchool`, `achieves_uploadPhoto`: what
   each operation does if it answers.
-/

namespace SchoolCatalog

open Store Store.Database

namespace Service

variable {around : Surroundings} {db : Database} {values : Record}

/-! ## Locations -/

/-- The location fields that an address gets. -/
inductive Located (around : Surroundings) (address : Wording) : Record → Prop
  | disabled : Geo.Geocoder.ofSettings? around.settings = none → Located around address []
  | unknown {geocoder : Geo.Geocoder} {why : Unlocated} :
      Geo.Geocoder.ofSettings? around.settings = some geocoder →
      Geo.Location.ofReply address (around.geocode address) = .error (.unlocated why) →
      Located around address []
  | known {geocoder : Geo.Geocoder} {location : Geo.Location} :
      Geo.Geocoder.ofSettings? around.settings = some geocoder →
      Geo.Location.ofReply address (around.geocode address) = .ok location →
      Located around address location.record

theorem ensures_locate (geocoder : Geo.Geocoder) (address : Wording) :
    Ensures around db (Service.locate geocoder address) fun result after =>
      result = Geo.Location.ofReply address (around.geocode address) ∧ after = db := by
  rintro state rfl
  simp only [Service.locate, run_bind, run_modify, run_read, run_ofExcept, and_self]

theorem finds_locationOf (address : Wording) :
    Finds around db (Schools.locationOf address) (Located around address) := by
  unfold Schools.locationOf
  refine finds_surroundings.bind fun around' (hsame : around' = around) => ?_
  subst hsame
  split
  next hgeocoder => exact finds_pure (.disabled hgeocoder)
  next geocoder hgeocoder =>
    have hreply : Finds around' db (Service.attempt (Service.locate geocoder address)) fun result =>
        result = Geo.Location.ofReply address (around'.geocode address) :=
      Ensures.attempt ((ensures_locate geocoder address).weaken fun _ _ h => ⟨h.2, h.1⟩)
    refine hreply.bind fun result hresult => ?_
    split
    · exact finds_pure (.known hgeocoder hresult.symm)
    · exact Achieves.read_bind (spares_log lasting_database _ _) fun _ =>
        finds_pure (.unknown hgeocoder hresult.symm)
    · exact achieves_fail _

/-! ## Values -/

/-- The values of a change of a school: its location goes with a new address. -/
inductive ChangedSchool (around : Surroundings) (change : SchoolChange) (school : Record) :
    Record → Prop
  | stays : (∀ address, change.address = some address →
      (Record.field school "address").same (.ofWording address) = true) →
      ChangedSchool around change school change.record
  | moves {address : Wording} {location : Record} : change.address = some address →
      (Record.field school "address").same (.ofWording address) = false →
      Located around address location → ChangedSchool around change school
        (Record.putAll change.record (if location.isEmpty then Geo.noLocation else location))

theorem finds_changedSchool (change : SchoolChange) (school : Record) :
    Finds around db (Schools.changedValues change school) (ChangedSchool around change school) := by
  unfold Schools.changedValues
  split
  next hnone => exact finds_pure (.stays fun address hsome => nomatch hnone.symm.trans hsome)
  next address hsome =>
    split
    next hsame =>
      refine finds_pure (.stays fun other hother => ?_)
      cases hsome.symm.trans hother
      exact hsame
    next hdiffers =>
      exact (finds_locationOf address).bind fun location hlocation =>
        finds_pure (.moves hsome (Bool.not_eq_true _ ▸ hdiffers) hlocation)

/-- The fields that describe a school. -/
def describing : List String :=
  ["name", "description", "website", "phone", "email", "address", "photo", "user_id"] ++
    Geo.locationFields

/-- Whether values only describe a school. -/
def Describes (values : Record) : Prop := ∀ name ∈ Record.names values, name ∈ describing

theorem Describes.absent (h : Describes values) {name : String} (hname : name ∉ describing)
    (d : Datum) : (name, d) ∉ values :=
  fun hd => hname (h name (List.mem_map_of_mem hd))

theorem Describes.ordinary (h : Describes values) : Ordinary .schools values where
  averages _ a d := h.absent (by cases a <;> decide) d
  ratings heq := absurd (congrArg Layout.name heq) (by decide)

theorem Describes.putAll {other : Record} (h : Describes values) (h' : Describes other) :
    Describes (Record.putAll values other) := by
  intro name hname
  obtain ⟨entry, hentry, rfl⟩ := List.mem_map.1 hname
  exact (Record.mem_putAll hentry).elim (fun hold => h _ (List.mem_map_of_mem hold))
    fun hnew => h' _ (List.mem_map_of_mem hnew)

theorem describes_photo (d : Datum) : Describes [("photo", d)] :=
  (by decide : ∀ name ∈ ["photo"], name ∈ describing)

theorem describes_draft (draft : SchoolDraft) : Describes draft.record :=
  (by decide : ∀ name ∈ ["name", "description", "website", "phone", "email", "address"],
    name ∈ describing)

theorem describes_change (change : SchoolChange) : Describes change.record := by
  intro name hname
  obtain ⟨⟨_, d⟩, hentry, rfl⟩ := List.mem_map.1 hname
  exact (by decide : ∀ name ∈ ["name", "description", "website", "phone", "email", "address"],
    name ∈ describing) _ (List.mem_map_of_mem (mem_given hentry) : _ ∈ change.fields.map (·.1))

theorem Located.describes {address : Wording} (h : Located around address values) :
    Describes values := by
  cases h with
  | disabled _ => exact fun _ hentry => nomatch hentry
  | unknown _ _ => exact fun _ hentry => nomatch hentry
  | known _ _ => exact (by decide : ∀ name ∈ Geo.locationFields, name ∈ describing)

theorem ChangedSchool.describes {change : SchoolChange} {school : Record}
    (h : ChangedSchool around change school values) : Describes values := by
  cases h with
  | stays _ => exact describes_change change
  | moves _ _ hlocation =>
    refine (describes_change change).putAll ?_
    split
    · exact (by decide : ∀ name ∈ Record.names Geo.noLocation, name ∈ describing)
    · exact hlocation.describes

/-- No location, and no change, names an owner. -/
theorem Located.no_owner {address : Wording} (h : Located around address values) (d : Datum) :
    ("user_id", d) ∉ values := by
  cases h with
  | disabled _ => simp
  | unknown _ _ => simp
  | known _ _ => simp [Geo.Location.record]

theorem ChangedSchool.no_owner {change : SchoolChange} {school : Record}
    (h : ChangedSchool around change school values) (d : Datum) : ("user_id", d) ∉ values := by
  have hchange : ("user_id", d) ∉ change.record := fun hd => by
    simpa [SchoolChange.fields] using mem_given hd
  cases h with
  | stays _ => exact hchange
  | moves _ _ hlocation =>
    intro hd
    rcases Record.mem_putAll hd with hd | hd
    · exact hchange hd
    · split at hd
      · simp [Geo.noLocation, Geo.locationFields] at hd
      · exact hlocation.no_owner d hd

theorem suiting_schoolDraft (draft : SchoolDraft) : Suiting .schools draft.record := by
  simp only [Suiting, SchoolDraft.record, List.forall_mem_cons]
  exact ⟨.inr rfl, .inr rfl, .inr (suits_optional _), .inr (suits_optional _),
    .inr (suits_optional _), .inr (suits_wording _), fun _ hnone => nomatch hnone⟩

theorem suiting_schoolChange (change : SchoolChange) : Suiting .schools change.record := by
  refine suiting_given ?_
  simp only [SchoolChange.fields, List.forall_mem_cons, Option.map_eq_some_iff]
  refine ⟨?_, ?_, ?_, ?_, ?_, ?_, fun _ hnone => nomatch hnone⟩
  all_goals
    rintro _ ⟨_, _, rfl⟩
    first | rfl | exact suits_wording _

/-- What a geocoder says of a place suits the columns for it. -/
theorem suiting_location {location : Geo.Location} (h : location.Byteless) :
    Suiting .schools location.record := by
  have htext {d : Datum} (hd : d.Byteless) : Affinity.text.suits d = true := by
    cases hd <;> rfl
  simp only [Geo.Location.Byteless, Geo.Location.record, List.forall_mem_cons] at h
  obtain ⟨_, _, hformatted, hstreet, hcity, hstate, hzipcode, hcountry, _⟩ := h
  simp only [Suiting, Geo.Location.record, List.forall_mem_cons]
  exact ⟨.inr rfl, .inr rfl, .inr (htext hformatted), .inr (htext hstreet), .inr (htext hcity),
    .inr (htext hstate), .inr (htext hzipcode), .inr (htext hcountry), List.forall_mem_nil _⟩

theorem Located.suiting {address : Wording} (h : Located around address values) :
    Suiting .schools values := by
  cases h with
  | disabled _ => exact fun _ hnone => nomatch hnone
  | unknown _ _ => exact fun _ hnone => nomatch hnone
  | known _ hreply => exact suiting_location (Geo.yields_ofReply _ _ _ hreply)

theorem ChangedSchool.suiting {change : SchoolChange} {school : Record}
    (h : ChangedSchool around change school values) : Suiting .schools values := by
  cases h with
  | stays _ => exact suiting_schoolChange change
  | moves _ _ hlocation =>
    refine suiting_putAll (suiting_schoolChange change) ?_
    split
    · rintro entry hentry
      obtain ⟨name, hname, rfl⟩ := List.mem_map.1 hentry
      exact .inr ((by decide : ∀ name ∈ Geo.locationFields,
        (Layout.schools.affinity (.column name)).suits .null = true) name hname)
    · exact hlocation.suiting

/-- The values of a new school. -/
def newSchool (draft : SchoolDraft) (location : Record) (caller : Caller) : Record :=
  Record.put (Record.putAll draft.record location) "user_id" caller.id

theorem describes_new (draft : SchoolDraft) {location : Record} (hlocation : Describes location)
    (caller : Caller) : Describes (newSchool draft location caller) := by
  have howner : Describes [("user_id", caller.id)] :=
    (by decide : ∀ name ∈ ["user_id"], name ∈ describing)
  exact ((describes_draft draft).putAll hlocation).putAll howner

theorem suiting_photo (name : Wording) : Suiting .schools [("photo", .ofWording name)] :=
  List.forall_mem_singleton.2 (.inr (suits_wording _))

theorem suiting_newSchool (draft : SchoolDraft) {location : Record}
    (hlocation : Suiting .schools location) (caller : Caller) :
    Suiting .schools (newSchool draft location caller) := by
  have howner : Suiting .schools [("user_id", caller.id)] :=
    List.forall_mem_singleton.2 (.inl (by decide : "user_id" ∈ Layout.schools.parents.map (·.1)))
  exact suiting_putAll (suiting_putAll (suiting_schoolDraft draft) hlocation) howner

/-! ## What the operations do -/

/-- Whether no school is owned by an identity. -/
def OwnsNone (db : Database) (owner : Datum) : Prop :=
  ∀ school ∈ db.rows "schools", ∀ u, school.cell "user_id" = .int u → ¬ owner.Denotes u

/-- Looking up a school of an owner finds one unless there is none. -/
theorem isSome_found_iff (h : db.Sound) {owner : Datum} {found : List Record}
    (hfound : db.found .schools { conditions := [⟨"user_id", .eq, owner⟩], limit := some 1 } =
      .ok found) : found.head?.isSome = true ↔ ¬ OwnsNone db owner := by
  have hrecords := (found_by_key h .schools isKey_owner owner none bindWindow_one).symm.trans hfound
  cases hv : Cell.bind owner with
  | error fault => rw [hv] at hrecords; exact nomatch hrecords
  | ok v =>
    rw [hv] at hrecords
    obtain rfl := Except.ok.inj hrecords
    have hkeyed {school : Row} (hschool : school ∈ db.rows "schools") :
        keyed .schools "user_id" v school = true ↔
          ∃ u, school.cell "user_id" = .int u ∧ owner.Denotes u :=
      holds_key h .schools isKey_owner hv hschool
    have hsome : (((window 0 (some 1) ((db.rows "schools").filter (keyed .schools "user_id" v))).map
        (recordOf .schools (Layout.schools.shown (columns .schools none false)))).head?.isSome = true) ↔
        ∃ school ∈ db.rows "schools", keyed .schools "user_id" v school = true := by
      simp [window, List.head?_take]
    refine hsome.trans ?_
    simp only [OwnsNone, not_forall, not_not, exists_prop]
    exact exists_congr fun school => and_congr_right hkeyed

/-- What publishing does with the location of the address. -/
def publishAt (draft : SchoolDraft) (caller : Caller) (location : Record) : Service Record := do
  let school ← Service.wording (({} : Store).insert .schools (newSchool draft location caller)) fun _ =>
    Service.fail (.conflict (.schoolName (.text draft.name)))
  Service.info ("User " ++ caller.id.display ++ " published school " ++
    (Record.field school "id").display)
  return school

/-- Publishing, once it is allowed. -/
def publishAllowed (draft : SchoolDraft) (caller : Caller) : Service Record :=
  Schools.locationOf draft.address >>= publishAt draft caller

/-- One who is no admin is asked for a school first. -/
theorem create_eq (draft : SchoolDraft) (caller : Caller) : Schools.create draft caller =
    if caller.isAdmin then publishAllowed draft caller
    else ({} : Store).findOne .schools [⟨"user_id", .eq, caller.id⟩] false >>= fun owned =>
      if owned.isSome then Service.fail (.refused (.alreadyPublished caller.id))
      else publishAllowed draft caller := by
  unfold Schools.create
  cases caller.isAdmin with
  | true => rfl
  | false =>
    refine congrArg (_ >>= ·) (funext fun owned => ?_)
    cases owned <;> rfl

theorem achieves_publishAllowed (h : db.Sound) (draft : SchoolDraft) (caller : Caller) :
    Achieves around db (publishAllowed draft caller) fun record after => ∃ location row,
      Located around draft.address location ∧
      db.Adds .schools .schools (newSchool draft location caller) row ∧
      after = db.grown .schools row ∧ record = row.record .schools .schools := by
  refine (finds_locationOf draft.address).bind fun location hlocation => ?_
  refine ((achieves_insert h .schools _).wording fun _ => achieves_fail _).bind ?_
  rintro school mid ⟨row, hadds, rfl, rfl⟩
  exact ensures_done_info ⟨location, row, hlocation, hadds, rfl, rfl⟩ _

/-- Publishing adds a school of the caller's; one who is no admin had none before. -/
theorem achieves_createSchool (h : db.Sound) (draft : SchoolDraft) (caller : Caller) :
    Achieves around db (Schools.create draft caller) fun record after =>
      (caller.isAdmin = true ∨ OwnsNone db caller.id) ∧ ∃ location row,
        Located around draft.address location ∧
        db.Adds .schools .schools (newSchool draft location caller) row ∧
        after = db.grown .schools row ∧ record = row.record .schools .schools := by
  rw [create_eq]
  split
  next hadmin =>
    exact (achieves_publishAllowed h draft caller).weaken fun _ _ hadded => ⟨.inl hadmin, hadded⟩
  next =>
    have hfirst : Finds around db (({} : Store).findOne .schools [⟨"user_id", .eq, caller.id⟩] false)
        fun found => found.isSome = false → OwnsNone db caller.id := by
      unfold Store.findOne
      refine (finds_of_eq (ensures_find _)).bind fun found hfound => ?_
      exact finds_pure fun hnone => by
        simpa [hnone] using isSome_found_iff h hfound
    refine hfirst.bind fun found hfound => ?_
    split
    next => exact achieves_fail _
    next hnone =>
      refine (achieves_publishAllowed h draft caller).weaken fun _ _ hadded => ⟨.inr ?_, hadded⟩
      exact hfound (Bool.not_eq_true _ ▸ hnone)

theorem finds_getSchool (h : db.Sound) (id : Datum) :
    Finds around db (Schools.get id) fun record => ∃ row ∈ db.rows Layout.schools.name,
      id.Denotes row.id ∧ record = row.record .schools .schools :=
  finds_record h .schools id _

/-- Changing a school amends it. -/
theorem achieves_updateSchool (h : db.Sound) (id : Datum) (change : SchoolChange) (caller : Caller) :
    Achieves around db (Schools.update id change caller) fun record after => ∃ old row values,
      Allows db .schools .schools caller id old ∧
      ChangedSchool around change (old.record .schools .schools) values ∧
      db.Amends .schools .schools values old row ∧ after = db.amended .schools row ∧
      record = row.record .schools .schools := by
  unfold Schools.update
  refine Finds.owned_bind .schools (finds_getSchool h id) fun old hold => ?_
  refine (finds_changedSchool change _).bind fun values hvalues => ?_
  refine ((achieves_update h .schools id values).wording fun _ => achieves_fail _).bind ?_
  rintro updated mid (⟨rfl, rfl, _⟩ | ⟨same, row, hid, hamends, rfl, rfl⟩)
  · exact achieves_fail _
  · obtain rfl := h.eq_of_id Kept.schools.mem_standard hamends.mem hold.mem (hid.unique hold.denotes)
    exact ensures_done_info ⟨same, row, values, hold, hvalues, hamends, rfl, rfl⟩ _

/-- No school that stays loses a course or review when a school is deleted. -/
theorem not_dueForDeletion_school {a : Aggregate} {id s : Int} :
    ¬ dueForDeletion db "schools" id a s := by
  rintro ⟨row, _, ⟨hname, _⟩ | ⟨hname, _⟩⟩
  · exact a.layout_ne_schools hname
  · exact absurd hname (by decide)

/-- Deleting a school takes out all that goes with it. -/
theorem achieves_deleteSchool (h : db.Sound) (id : Datum) (caller : Caller) :
    Achieves around db (Schools.delete id caller) fun _ after => ∃ old,
      Allows db .schools .schools caller id old ∧ Deleted db "schools" old.id after := by
  unfold Schools.delete
  refine Finds.owned_bind .schools (finds_getSchool h id) fun old hold => ?_
  refine (achieves_delete h .schools id).bind ?_
  rintro _ mid (⟨_, rfl, hnone⟩ | ⟨_, same, hsame, hid, hdeleted⟩)
  · exact absurd hold.denotes (hnone old hold.mem)
  · obtain rfl := h.eq_of_id Kept.schools.mem_standard hsame hold.mem (hid.unique hold.denotes)
    exact ensures_done ⟨same, hold, hdeleted⟩ _

/-- An upload is let through up to the point where its file is stored: the school is there, the caller
may change it, the content is an image of an allowed size, and the name of the photo is one that a file
can have. -/
structure Stores (around : Surroundings) (db : Database) (id : Datum) (filename : Option Wording)
    (contentType : Option String) (content : Bytes) (caller : Caller) (file : Bytes) : Prop where
  allowed : ∃ old, Allows db .schools .schools caller id old
  admitted : Schools.admitPhoto contentType content around.settings.maxFileUpload = .ok ()
  named : Schools.fileName around.settings.fileUploadPath (Schools.photoName id filename) = .ok file

theorem finds_photoFile (h : db.Sound) (id : Datum) (filename : Option Wording)
    (contentType : Option String) (content : Bytes) (caller : Caller) :
    Finds around db (Schools.photoFile id filename contentType content caller)
      (Stores around db id filename contentType content caller) := by
  unfold Schools.photoFile
  refine Finds.owned_bind .schools (finds_getSchool h id) fun old hold => ?_
  refine finds_surroundings.bind fun around' (hsame : around' = around) => ?_
  subst hsame
  refine (finds_ofExcept _).bind fun _ hadmitted => ?_
  exact (finds_ofExcept _).weaken fun file hnamed => ⟨⟨old, hold⟩, hadmitted, hnamed⟩

/-- Storing a photo amends the school that it is of, unless the update gets lost. -/
theorem achieves_uploadPhoto (h : db.Sound) (id : Datum) (filename : Option Wording)
    (contentType : Option String) (content : Bytes) (caller : Caller) :
    Achieves around db (Schools.uploadPhoto id filename contentType content caller) fun name after =>
      ∃ old, Allows db .schools .schools caller id old ∧
        ((around.losesUpdates = true ∧ after = db) ∨ ∃ row,
          db.Amends .schools .schools [("photo", .ofWording name)] old row ∧
          after = db.amended .schools row) := by
  unfold Schools.uploadPhoto
  refine (finds_photoFile h id filename contentType content caller).bind fun file hstores => ?_
  obtain ⟨old, hold⟩ := hstores.allowed
  refine Achieves.read_bind (spares_modify fun _ => rfl) fun _ => ?_
  unfold Schools.recordPhoto
  refine (achieves_update h .schools id _).bind ?_
  rintro updated mid (⟨_, rfl, hlost | hnone⟩ | ⟨same, row, hid, hamends, rfl, _⟩)
  · exact ensures_done_info ⟨old, hold, .inl ⟨hlost, rfl⟩⟩ _
  · exact absurd hold.denotes (hnone old hold.mem)
  · obtain rfl := h.eq_of_id Kept.schools.mem_standard hamends.mem hold.mem (hid.unique hold.denotes)
    exact ensures_done_info ⟨same, hold, .inr ⟨row, hamends, rfl⟩⟩ _

end Service
end SchoolCatalog
