import SchoolCatalog.Proofs.Service.Ends
import SchoolCatalog.Proofs.Service.Locations

/-!
# Publishing beside a geocoder

Publishing a school, or moving it, looks up the address first. Next to the same operation with the
geocoder off, a reply makes a difference to the location fields alone: these are those of the reply, or
null where the address is not located. There are replies that stop the operation: one that is too deep to
be read or has too large a number fails at once, and a field that cannot be bound fails when the school is
written.

Results:
1. `run_locationOf_bind`, `create_cases`, `update_cases`: the parts of the operations.
2. `assign_between`, `agreeOnRules_between`: what location fields do to the values that they stand among.
3. `fares_of_publish`, `fares_of_revise`: the operations from the location of the address on.
4. `fares_of_run`: after every run, exactly an obstacle in the reply stops an operation.
-/

namespace SchoolCatalog

open Store Store.Database

open Service

/-! ## What a geocoder has to say -/

namespace Surroundings

/-- The same surroundings with the geocoder switched off. -/
def unlocating (around : Surroundings) : Surroundings :=
  { around with settings := { around.settings with geocoderProvider := "none" } }

/-- The location fields that an address gets: none where it is not located. -/
def place (around : Surroundings) (address : Wording) : Except Failure Record :=
  match Geo.Geocoder.ofSettings? around.settings with
  | none => .ok []
  | some _ =>
    match Geo.Location.ofReply address (around.geocode address) with
    | .ok location => .ok location.record
    | .error (.unlocated _) => .ok []
    | .error failure => .error failure

/-- What stops a school with an address from being stored: a reply that is too deep or has too large a
number, or a field of the location that cannot be bound. -/
def obstacle? (around : Surroundings) (address : Wording) : Option Failure :=
  match around.place address >>= Layout.schools.assign with
  | .ok _ => none
  | .error failure => some failure

theorem obstacle?_eq_some {around : Surroundings} {address : Wording} {failure : Failure}
    (h : around.obstacle? address = some failure) :
    around.place address = .error failure ∨
      ∃ fields, around.place address = .ok fields ∧ Layout.schools.assign fields = .error failure := by
  unfold obstacle? at h
  split at h
  next => exact nomatch h
  next cause hfails =>
    obtain rfl := Option.some.inj h
    exact bind_eq_error.1 hfails

theorem obstacle?_eq_none {around : Surroundings} {address : Wording}
    (h : around.obstacle? address = none) :
    ∃ fields, around.place address = .ok fields ∧ ∃ a, Layout.schools.assign fields = .ok a := by
  unfold obstacle? at h
  split at h
  next a hbound =>
    obtain ⟨fields, hplace, hassign⟩ := bind_eq_ok.1 hbound
    exact ⟨fields, hplace, a, hassign⟩
  next => exact nomatch h

theorem ofSettings?_unlocating (around : Surroundings) :
    Geo.Geocoder.ofSettings? around.unlocating.settings = none := by
  have hlower : ["", "none", "off"].contains (Text.lower "none") = true := by decide
  exact if_pos hlower

theorem place_unlocating (around : Surroundings) (address : Wording) :
    around.unlocating.place address = .ok [] := by
  rw [place, ofSettings?_unlocating]

end Surroundings

namespace Service

variable {α : Type} {around : Surroundings} {state : State} {db after : Database} {address : Wording}
  {fields : Record}

theorem located_of_place (h : around.place address = .ok fields) : Located around address fields := by
  unfold Surroundings.place at h
  split at h
  next hoff =>
    obtain rfl := Except.ok.inj h
    exact .disabled hoff
  next geocoder hon =>
    split at h
    next location hreply =>
      obtain rfl := Except.ok.inj h
      exact .known hon hreply
    next why hreply =>
      obtain rfl := Except.ok.inj h
      exact .unknown hon hreply
    next => exact nomatch h

/-- An operation that goes on from a location does so on the same database and with the same stamp. -/
theorem run_locationOf_bind (around : Surroundings) (state : State) (address : Wording)
    (f : Record → Service α) :
    ∃ next, (run (Schools.locationOf address >>= f) around state =
        match around.place address with
        | .ok fields => run (f fields) around next
        | .error failure => (.error failure, next)) ∧
      next.database = state.database ∧ next.stamps = state.stamps := by
  unfold Surroundings.place Schools.locationOf
  simp only [run_bind, run_read]
  cases Geo.Geocoder.ofSettings? around.settings with
  | none => exact ⟨state, rfl, rfl, rfl⟩
  | some geocoder =>
    simp only [run_bind, run_attempt, Service.locate, run_modify, run_read, run_ofExcept]
    cases Geo.Location.ofReply address (around.geocode address) with
    | error failure => cases failure <;> exact ⟨_, rfl, rfl, rfl⟩
    | ok location => exact ⟨_, rfl, rfl, rfl⟩

theorem ends_placed (hplace : around.place address = .ok fields) (state : State)
    (f : Record → Service α) :
    ∃ next, next.database = state.database ∧ next.stamps = state.stamps ∧ ∀ result after,
      Ends around state (Schools.locationOf address >>= f) result after ↔
        Ends around next (f fields) result after := by
  obtain ⟨next, hrun, hdatabase, hstamps⟩ := run_locationOf_bind around state address f
  rw [hplace] at hrun
  refine ⟨next, hdatabase, hstamps, fun result after => ?_⟩
  unfold Ends
  rw [hrun]

theorem ends_unplaced {failure : Failure} (hplace : around.place address = .error failure)
    (state : State) (f : Record → Service α) :
    Ends around state (Schools.locationOf address >>= f) (.error failure) state.database := by
  obtain ⟨next, hrun, hdatabase, _⟩ := run_locationOf_bind around state address f
  rw [hplace] at hrun
  exact ⟨next, hrun, hdatabase⟩

/-! ## Publishing -/

/-- Whether publishing is allowed is a matter of the database. -/
theorem create_cases (draft : SchoolDraft) (caller : Caller) (state : State) :
    (∃ failure, ∀ around, run (Schools.create draft caller) around state = (.error failure, state)) ∨
      ∀ around, run (Schools.create draft caller) around state =
        run (publishAllowed draft caller) around state := by
  rw [create_eq]
  split
  · exact .inr fun _ => rfl
  · simp only [run_bind, run_findOne]
    cases state.database.found .schools
      { conditions := [⟨"user_id", .eq, caller.id⟩], limit := some 1 } with
    | error failure => exact .inl ⟨failure, fun _ => rfl⟩
    | ok found =>
      cases found with
      | nil => exact .inr fun _ => rfl
      | cons _ _ => exact .inl ⟨_, fun _ => rfl⟩

section PublishAt

variable {draft : SchoolDraft} {caller : Caller} {stamp : String} {id : Int} {failure : Failure}
  {record : Record}

theorem ends_publishAt_error (hstamp : stamp? (around.instant state.stamps) = some stamp)
    (hinsert : state.database.insert .schools (stamped .schools (newSchool draft fields caller) stamp) =
      .error failure) (hfailure : ∀ rule, failure ≠ .violated rule) :
    Ends around state (publishAt draft caller fields) (.error failure) state.database :=
  ((ends_insert_error hstamp hinsert).unworded hfailure).fail_bind

theorem ends_publishAt (hstamp : stamp? (around.instant state.stamps) = some stamp)
    (hinsert : state.database.insert .schools (stamped .schools (newSchool draft fields caller) stamp) =
      .ok (after, id)) (hrecord : after.record? .schools (.int id) none = .ok (some record)) :
    Ends around state (publishAt draft caller fields) (.ok record) after := by
  refine (ends_insert hstamp hinsert hrecord).wording.bind ?_
  rintro next rfl
  exact ends_info_pure _ record

theorem Ends.publishedAt
    (h : Ends around state (publishAt draft caller fields) (.ok record) after) :
    ∃ stamp id, stamp? (around.instant state.stamps) = some stamp ∧
      state.database.insert .schools (stamped .schools (newSchool draft fields caller) stamp) =
        .ok (after, id) := by
  obtain ⟨found, next, hinsert, _, hrest, rfl⟩ := h.of_bind
  obtain rfl := (Prod.mk.inj hrest).2
  exact hinsert.of_wording.inserted

end PublishAt

/-! ## Moving -/

/-- What changing a school does with the values to write. -/
def reviseAt (id : Datum) (change : SchoolChange) (caller : Caller) (values : Record) :
    Service Record := do
  let updated ← Service.wording (({} : Store).update .schools id values) fun _ =>
    Service.fail (.conflict (.schoolName (.ofOption (change.name.map .text))))
  match updated with
  | none => Service.fail (.missing (.school id))
  | some school =>
    Service.info ("User " ++ caller.id.display ++ " updated school " ++ id.display)
    return school

/-- Which school is changed, and whether it may be, is a matter of the database; with a new address it
moves. -/
theorem update_cases {change : SchoolChange} {address : Wording} (haddress : change.address = some address)
    (id : Datum) (caller : Caller) {state : State}
    (hmoves : ∀ school, state.database.record? .schools id none = .ok (some school) →
      (Record.field school "address").same (.ofWording address) = false) :
    (∃ failure, ∀ around,
      run (Schools.update id change caller) around state = (.error failure, state)) ∨
      ∀ around, run (Schools.update id change caller) around state =
        run (Schools.locationOf address >>= fun location =>
          reviseAt id change caller (Record.putAll change.record (filled location))) around state := by
  unfold Schools.update Schools.get
  simp only [run_bind, run_getRecord]
  cases hrecord : state.database.record? .schools id none with
  | error failure => exact .inl ⟨failure, fun _ => rfl⟩
  | ok found =>
    cases found with
    | none => exact .inl ⟨_, fun _ => rfl⟩
    | some school =>
      simp only [run_pure, run_ofExcept]
      cases caller.ensureOwner school "update this school" with
      | error failure => exact .inl ⟨failure, fun _ => rfl⟩
      | ok _ =>
        refine .inr fun around => ?_
        unfold Schools.changedValues
        simp only [haddress, hmoves school hrecord, Bool.false_eq_true, if_false, run_bind, reviseAt]
        rcases run (Schools.locationOf address) around state with ⟨_ | location, next⟩
        · rfl
        · rfl

section ReviseAt

variable {change : SchoolChange} {caller : Caller} {id : Datum} {failure : Failure}
  {record values : Record}

theorem ends_reviseAt_error (working : around.losesUpdates = false)
    (hsome : (writable .schools values).isEmpty = false)
    (hupdate : state.database.update .schools id (writable .schools values) = .error failure)
    (hfailure : ∀ rule, failure ≠ .violated rule) :
    Ends around state (reviseAt id change caller values) (.error failure) state.database :=
  ((ends_update_error working hsome hupdate).unworded hfailure).fail_bind

theorem ends_reviseAt (working : around.losesUpdates = false)
    (hsome : (writable .schools values).isEmpty = false)
    (hupdate : state.database.update .schools id (writable .schools values) = .ok (after, true))
    (hrecord : after.record? .schools id none = .ok (some record)) :
    Ends around state (reviseAt id change caller values) (.ok record) after := by
  refine (ends_update working hsome hupdate hrecord).wording.bind ?_
  rintro next rfl
  exact ends_info_pure _ record

theorem Ends.revisedAt (hsome : (writable .schools values).isEmpty = false)
    (h : Ends around state (reviseAt id change caller values) (.ok record) after) :
    around.losesUpdates = false ∧
      state.database.update .schools id (writable .schools values) = .ok (after, true) := by
  obtain ⟨found, next, hupdate, _, hrest, rfl⟩ := h.of_bind
  cases found with
  | none => exact nomatch hrest
  | some found =>
    obtain rfl := (Prod.mk.inj hrest).2
    exact hupdate.of_wording.updated hsome

end ReviseAt

/-! ## Fields of a location among other values -/

section Between

variable {front back others : Record} {row : Row} {name : String}

/-- A column for a location may hold anything. -/
theorem location_free : ∀ col ∈ Layout.schools.columns, col.name ∈ Geo.locationFields →
    Layout.schools.IsFree col ∧ col.required = false ∧ col.default = .null := by
  have hall : ∀ col ∈ Layout.schools.columns, col.name ∈ Geo.locationFields →
      col.check = none ∧ (∀ columns ∈ Layout.schools.unique, col.name ∉ columns) ∧
        (∀ link ∈ Layout.schools.parents, link.1 ≠ col.name) ∧ col.required = false ∧
        col.default = .null := by
    decide
  intro col hcol hname
  obtain ⟨hcheck, hshared, hlinks, hrequired, hdefault⟩ := hall col hcol hname
  exact ⟨⟨hcheck, hshared, hlinks⟩, hrequired, hdefault⟩

theorem same_between (hfields : ∀ name ∈ Record.names fields, name ∈ Geo.locationFields)
    (hothers : ∀ name ∈ Record.names others, name ∈ Geo.locationFields)
    (hname : name ∉ Geo.locationFields) (d : Datum) :
    (name, d) ∈ front ++ fields ++ back ↔ (name, d) ∈ front ++ others ++ back := by
  have hnot {part : Record} (hpart : ∀ name ∈ Record.names part, name ∈ Geo.locationFields) :
      (name, d) ∉ part :=
    fun hd => hname (hpart _ (List.mem_map_of_mem hd))
  simp [hnot hfields, hnot hothers]

theorem agreeOnRules_between (hfields : ∀ name ∈ Record.names fields, name ∈ Geo.locationFields)
    (hothers : ∀ name ∈ Record.names others, name ∈ Geo.locationFields) :
    Layout.schools.AgreeOnRules (front ++ fields ++ back) (front ++ others ++ back) := by
  intro col hcol
  by_cases hname : col.name ∈ Geo.locationFields
  · obtain ⟨hfree, hrequired, _⟩ := location_free col hcol hname
    exact .inr ⟨hfree, hrequired⟩
  · exact .inl (same_between hfields hothers hname)

/-- Whether values can be bound is decided by the part in the middle, if the others can. -/
theorem assign_between {a : Assignments} (hvalues : ForColumns .schools (front ++ fields ++ back))
    (hassign : Layout.schools.assign (front ++ fields ++ back) = .ok a)
    (hothers : ForColumns .schools (front ++ others ++ back)) :
    (∀ failure, Layout.schools.assign others = .error failure →
      Layout.schools.assign (front ++ others ++ back) = .error failure) ∧
    ∀ b, Layout.schools.assign others = .ok b →
      ∃ b', Layout.schools.assign (front ++ others ++ back) = .ok b' := by
  have hpart : ForColumns .schools others := fun entry hentry => hothers entry (by simp [hentry])
  rw [assign_eq .schools hvalues] at hassign
  rw [assign_eq .schools hothers, assign_eq .schools hpart]
  obtain ⟨_, hbound⟩ := mapM_ok hassign
  constructor
  · intro failure hfailure
    obtain ⟨before, entry, rest, rfl, hbefore, hentry⟩ := mapM_eq_error.1 hfailure
    refine mapM_eq_error.2 ⟨front ++ before, entry, rest ++ back, by simp, fun other hother => ?_, hentry⟩
    rcases List.mem_append.1 hother with hother | hother
    · obtain ⟨b, _, hb⟩ := hbound other (by simp [hother])
      exact ⟨b, hb⟩
    · exact hbefore other hother
  · intro b hb
    obtain ⟨_, hmiddle⟩ := mapM_ok hb
    refine exists_mapM_ok fun entry hentry => ?_
    rcases List.mem_append.1 hentry with hentry | hback
    · rcases List.mem_append.1 hentry with hfront | hentry
      · obtain ⟨b, _, hb⟩ := hbound entry (by simp [hfront])
        exact ⟨b, hb⟩
      · obtain ⟨b, _, hb⟩ := hmiddle entry hentry
        exact ⟨b, hb⟩
    · obtain ⟨b, _, hb⟩ := hbound entry (by simp [hback])
      exact ⟨b, hb⟩

/-- A value that cannot be bound breaks no rule. -/
theorem bind_breaks_none (d : Datum) (rule : Violation) : Cell.bind d ≠ .error (.violated rule) := by
  cases d with
  | int i =>
    rw [Cell.bind]
    split <;> simp
  | _ => simp [Cell.bind]

theorem assign_breaks_none {failure : Failure} (hothers : ForColumns .schools others)
    (hassign : Layout.schools.assign others = .error failure) (rule : Violation) :
    failure ≠ .violated rule := by
  rw [assign_eq .schools hothers] at hassign
  obtain ⟨_, entry, _, _, _, hentry⟩ := mapM_eq_error.1 hassign
  rintro rfl
  cases hbind : Cell.bind entry.2 with
  | ok cell => simp [hbind, Except.map] at hentry
  | error failure =>
    rw [hbind] at hentry
    obtain rfl := Except.error.inj hentry
    exact bind_breaks_none _ _ hbind

theorem stores_noLocation (hnull : ∀ name ∈ Geo.locationFields, row.cell name = .null) :
    row.Stores .schools Geo.noLocation := by
  intro entry hentry
  obtain ⟨name, hname, rfl⟩ := List.mem_map.1 hentry
  refine ⟨.null, rfl, ?_⟩
  rw [hnull name hname]
  cases Layout.schools.affinity (.column name) <;> rfl

end Between

/-! ## What is written -/

section Written

variable {draft : SchoolDraft} {caller : Caller} {change : SchoolChange} {stamp : String}

/-- Null fields can be bound. -/
theorem assign_filled (location : Record) :
    (∀ failure, Layout.schools.assign location = .error failure →
      Layout.schools.assign (filled location) = .error failure) ∧
    ∀ a, Layout.schools.assign location = .ok a →
      ∃ b, Layout.schools.assign (filled location) = .ok b := by
  cases location with
  | nil => exact ⟨fun _ hfailure => (nomatch hfailure), fun _ _ => ⟨_, rfl⟩⟩
  | cons _ _ => exact ⟨fun _ hfailure => hfailure, fun a ha => ⟨a, ha⟩⟩

theorem locationFields_of_names (hnames : fields = [] ∨ Record.names fields = Geo.locationFields) :
    ∀ name ∈ Record.names fields, name ∈ Geo.locationFields := by
  rcases hnames with rfl | hnames
  · simp [Record.names]
  · exact fun name hname => hnames ▸ hname

/-- The values that are inserted for a new school. -/
theorem stamped_newSchool (draft : SchoolDraft) (caller : Caller) (stamp : String)
    (hnames : fields = [] ∨ Record.names fields = Geo.locationFields) :
    stamped .schools (newSchool draft fields caller) stamp =
      draft.record ++ fields ++ [("user_id", caller.id), ("created_at", .text stamp)] := by
  obtain ⟨heq, _⟩ := newSchool_eq draft caller hnames
  have hsplit : Record.names (draft.record ++ fields ++ [("user_id", caller.id)]) =
      ["name", "description", "website", "phone", "email", "address"] ++ Record.names fields ++
        ["user_id"] := by
    simp [Record.names, SchoolDraft.record]
  have hmem : ∀ name ∈ Record.names (newSchool draft fields caller),
      name ∈ ["name", "description", "website", "phone", "email", "address"] ++ Geo.locationFields ++
        ["user_id"] := by
    intro name hname
    rw [heq, hsplit] at hname
    simp only [List.mem_append] at hname ⊢
    exact hname.imp_left (.imp_right (locationFields_of_names hnames name))
  have hcolumns : ForColumns .schools (newSchool draft fields caller) := fun entry hentry =>
    (by decide : ∀ name ∈ ["name", "description", "website", "phone", "email", "address"] ++
      Geo.locationFields ++ ["user_id"], name ∈ Collection.schools.fieldNames ∧ name ≠ "id")
      entry.1 (hmem _ (List.mem_map_of_mem hentry))
  have hnew : "created_at" ∉ Record.names (newSchool draft fields caller) := fun hname =>
    absurd (hmem _ hname) (by decide)
  rw [stamped_eq hcolumns hnew, heq]
  simp

theorem nodup_stampedSchool (draft : SchoolDraft) (caller : Caller) (stamp : String)
    (hnames : fields = [] ∨ Record.names fields = Geo.locationFields) :
    (Record.names (stamped .schools (newSchool draft fields caller) stamp)).Nodup := by
  obtain ⟨heq, hdiffer⟩ := newSchool_eq draft caller hnames
  refine nodup_stamped ?_
  rw [heq]
  exact hdiffer

/-- The values that are written over those of a school that moves. -/
theorem writable_moved (change : SchoolChange)
    (hnames : fields = [] ∨ Record.names fields = Geo.locationFields) :
    writable .schools (Record.putAll change.record (filled fields)) =
      change.record ++ filled fields ++ [] := by
  rw [List.append_nil, (moved_eq change (names_filled hnames)).1]
  refine writable_eq fun entry hentry => ?_
  have hname : entry.1 ∈ Record.names (change.record ++ filled fields) := List.mem_map_of_mem hentry
  rw [Record.names, List.map_append, ← Record.names, ← Record.names, names_filled hnames] at hname
  exact (by decide : ∀ name ∈ ["name", "description", "website", "phone", "email", "address"] ++
    Geo.locationFields, name ∈ Collection.schools.fieldNames ∧ name ≠ "id") entry.1
    (((names_change change).append_right _).subset hname)

theorem nodup_moved (change : SchoolChange)
    (hnames : fields = [] ∨ Record.names fields = Geo.locationFields) :
    (Record.names (writable .schools (Record.putAll change.record (filled fields)))).Nodup := by
  obtain ⟨heq, hdiffer⟩ := moved_eq change (names_filled hnames)
  refine nodup_writable ?_
  rw [heq]
  exact hdiffer

/-- Where a school moves, there is something to write. -/
theorem isEmpty_moved (change : SchoolChange)
    (hnames : fields = [] ∨ Record.names fields = Geo.locationFields) :
    (writable .schools (Record.putAll change.record (filled fields))).isEmpty = false := by
  rw [writable_moved change hnames, List.append_nil, List.isEmpty_eq_false_iff]
  intro hempty
  have hnone : Geo.locationFields = [] := by
    rw [← names_filled hnames, (List.append_eq_nil_iff.1 hempty).2]
    rfl
  exact nomatch hnone

/-- A new school stores its location, or null for each field of it. -/
theorem stores_new {school : Row} (hnames : fields = [] ∨ Record.names fields = Geo.locationFields)
    {values : Record} (hvalues : values =
      draft.record ++ fields ++ [("user_id", caller.id), ("created_at", .text stamp)])
    (hcolumns : ForColumns .schools values) (hnodup : (Record.names values).Nodup)
    (hwritten : ∀ col ∈ Layout.schools.columns, Written values col col.default (school.cell col.name)) :
    school.Stores .schools (filled fields) := by
  rcases hnames with rfl | hnames
  · refine stores_noLocation fun name hname => ?_
    obtain ⟨_, col, hcol, rfl⟩ := located_columns name (List.mem_cons_of_mem _ hname)
    rcases hwritten col hcol with ⟨d, _, hd, _⟩ | ⟨_, hcell⟩
    · rw [hvalues] at hd
      have hdraft : col.name ∈ ["name", "description", "website", "phone", "email", "address",
        "user_id", "created_at"] := List.mem_map_of_mem (f := Prod.fst) hd
      exact absurd hname ((by decide : ∀ name ∈ ["name", "description", "website", "phone", "email",
        "address", "user_id", "created_at"], name ∉ Geo.locationFields) _ hdraft)
    · rw [hcell]
      exact (location_free col hcol hname).2.2
  · have hfull : filled fields = fields := by
      cases fields with
      | nil => exact nomatch hnames
      | cons _ _ => rfl
    rw [hfull]
    refine (stores_of_written .schools hcolumns hnodup hwritten).mono fun entry hentry => ?_
    rw [hvalues]
    simp [hentry]

end Written

/-! ## How an operation fares -/

/-- The same school with a location, or with none. -/
structure Relocates (location : Record) (plain school : Row) : Prop where
  id : school.id = plain.id
  cells : ∀ col ∈ Layout.schools.columns, col.name ∉ Geo.locationFields →
    school.cell col.name = plain.cell col.name
  stores : school.Stores .schools (filled location)

section Relocated

variable {draft : SchoolDraft} {caller : Caller} {change : SchoolChange} {stamp : String}

/-- Where a new school can be inserted without a location, it can be with one whose fields can be bound. -/
theorem insert_between (h : db.Sound)
    (hnames : fields = [] ∨ Record.names fields = Geo.locationFields) {number : Int}
    (hinsert : db.insert .schools (stamped .schools (newSchool draft [] caller) stamp) =
      .ok (after, number)) :
    (∀ failure, Layout.schools.assign fields = .error failure →
      db.insert .schools (stamped .schools (newSchool draft fields caller) stamp) = .error failure ∧
        ∀ rule, failure ≠ .violated rule) ∧
    ∀ b, Layout.schools.assign fields = .ok b → ∃ plain school,
      after = db.grown .schools plain ∧ Relocates fields plain school ∧
      db.insert .schools (stamped .schools (newSchool draft fields caller) stamp) =
        .ok (db.grown .schools school, number) ∧
      (db.grown .schools school).record? .schools (.int number) none =
        .ok (some (school.record .schools .schools)) := by
  have hfields := locationFields_of_names hnames
  have hnull : ∀ name ∈ Record.names ([] : Record), name ∈ Geo.locationFields := by simp [Record.names]
  have hvalues := forColumns_stamped .schools (newSchool draft [] caller) stamp
  have hothers := forColumns_stamped .schools (newSchool draft fields caller) stamp
  have hnodup := nodup_stampedSchool draft caller stamp hnames
  obtain ⟨a, hassign, _⟩ := accepted_of_insert h .schools hvalues hinsert
  rw [stamped_newSchool draft caller stamp (.inl rfl)] at hvalues hinsert hassign
  rw [stamped_newSchool draft caller stamp hnames] at hothers hnodup ⊢
  obtain ⟨hunbound, hbound⟩ := assign_between hvalues hassign hothers
  constructor
  · intro failure hfailure
    have hfails := hunbound failure hfailure
    exact ⟨insert_unbound h .schools hothers hnodup hfails, assign_breaks_none hothers hfails⟩
  · intro b hb
    obtain ⟨b', hb'⟩ := hbound b hb
    obtain ⟨plain, school, rfl, rfl, hid, hwritten, hcells, hsame⟩ := insert_freely h .schools hvalues
      hothers hnodup (agreeOnRules_between hnull hfields) hb' hinsert
    obtain ⟨_, _, _, hsound, _⟩ := insert_spec h .schools hothers hwritten
    have hrecord := record?_grown h .schools hsound
    rw [hid] at hrecord
    refine ⟨plain, school, rfl, ⟨hid, fun col hcol hname => ?_, ?_⟩, hwritten, hrecord⟩
    · exact hsame col hcol (same_between hnull hfields hname)
    · exact stores_new hnames rfl hothers hnodup hcells

/-- Where a school can be changed and left without a location, it can be given one whose fields can be
bound. -/
theorem update_between (h : db.Sound)
    (hnames : fields = [] ∨ Record.names fields = Geo.locationFields) {id : Datum}
    (hupdate : db.update .schools id (writable .schools (Record.putAll change.record (filled []))) =
      .ok (after, true)) :
    (∀ failure, Layout.schools.assign fields = .error failure →
      db.update .schools id (writable .schools (Record.putAll change.record (filled fields))) =
        .error failure ∧ ∀ rule, failure ≠ .violated rule) ∧
    ∀ b, Layout.schools.assign fields = .ok b → ∃ plain school,
      after = db.amended .schools plain ∧ Relocates fields plain school ∧
      db.update .schools id (writable .schools (Record.putAll change.record (filled fields))) =
        .ok (db.amended .schools school, true) ∧
      (db.amended .schools school).record? .schools id none =
        .ok (some (school.record .schools .schools)) := by
  have hnull : ∀ name ∈ Record.names (filled []), name ∈ Geo.locationFields := fun _ hname => hname
  have hfields : ∀ name ∈ Record.names (filled fields), name ∈ Geo.locationFields := by
    rw [names_filled hnames]
    exact fun _ hname => hname
  have hvalues := forColumns_writable .schools (Record.putAll change.record (filled []))
  have hothers := forColumns_writable .schools (Record.putAll change.record (filled fields))
  have hnodup := nodup_moved change hnames
  obtain ⟨a, hassign, _⟩ := accepted_of_update h .schools hvalues hupdate
  rw [writable_moved change (.inl rfl)] at hvalues hupdate hassign
  rw [writable_moved change hnames] at hothers hnodup ⊢
  obtain ⟨hunbound, hbound⟩ := assign_between hvalues hassign hothers
  obtain ⟨hrefuses, htakes⟩ := assign_filled fields
  constructor
  · intro failure hfailure
    have hfails := hunbound failure (hrefuses failure hfailure)
    exact ⟨update_unbound h .schools hothers hnodup id hfails, assign_breaks_none hothers hfails⟩
  · intro b hb
    obtain ⟨b', hb'⟩ := htakes b hb
    obtain ⟨c, hc⟩ := hbound b' hb'
    obtain ⟨old, hold, plain, school, hid, hplainId, rfl, hschoolId, hwritten, hcells, hsame⟩ :=
      update_freely h .schools hvalues hothers hnodup (agreeOnRules_between hnull hfields) hc hupdate
    have hsound := sound_of_update h .schools hothers hwritten
    have hrecord := record?_amended h .schools hold hschoolId hsound hid
    refine ⟨plain, school, rfl, ⟨hschoolId.trans hplainId.symm, fun col hcol hname => ?_, ?_⟩, hwritten,
      hrecord⟩
    · exact hsame col hcol (same_between hnull hfields hname)
    · exact (stores_of_written .schools hothers hnodup hcells).mono fun entry hentry => by simp [hentry]

end Relocated

/-- How an operation that stores a school with an address fares: an obstacle in the reply stops it and
leaves the database, and without one it stores the school that it stores with the geocoder off, with the
location of the address. -/
def Fares (around : Surroundings) (state : State) (address : Wording) (operation : Service Record)
    (write : Row → Database) : Prop :=
  (∀ failure, around.obstacle? address = some failure →
    Ends around state operation (.error failure) state.database) ∧
  (around.obstacle? address = none → ∃ location plain school, Located around address location ∧
    (∃ record, Ends around.unlocating state operation (.ok record) (write plain)) ∧
    Relocates location plain school ∧
    Ends around state operation (.ok (school.record .schools .schools)) (write school))

section Fares

variable {draft : SchoolDraft} {caller : Caller} {change : SchoolChange} {id : Datum} {record : Record}

theorem Fares.congr {operation other : Service Record} {write : Row → Database}
    (h : Fares around state address operation write)
    (hsame : ∀ around, run other around state = run operation around state) :
    Fares around state address other write := by
  obtain ⟨hobstacle, hfree⟩ := h
  constructor
  · intro failure hfailure
    exact (hobstacle failure hfailure).congr (hsame around)
  · intro hnone
    obtain ⟨location, plain, school, hlocated, ⟨record, hplain⟩, hrelocates, hends⟩ := hfree hnone
    exact ⟨location, plain, school, hlocated, ⟨record, hplain.congr (hsame _)⟩, hrelocates,
      hends.congr (hsame around)⟩

/-- What an operation fares like that goes on from the location of an address. -/
theorem fares_of_store {store : Record → Service Record} {write : Row → Database}
    (hstore : ∀ fields next, around.place address = .ok fields → next.database = state.database →
      next.stamps = state.stamps →
      (∀ failure, Layout.schools.assign fields = .error failure →
        Ends around next (store fields) (.error failure) state.database) ∧
      ∀ b, Layout.schools.assign fields = .ok b → ∃ plain school,
        (∃ record, Ends around.unlocating state (Schools.locationOf address >>= store) (.ok record)
          (write plain)) ∧
        Relocates fields plain school ∧
        Ends around next (store fields) (.ok (school.record .schools .schools)) (write school)) :
    Fares around state address (Schools.locationOf address >>= store) write := by
  constructor
  · intro failure hfailure
    rcases Surroundings.obstacle?_eq_some hfailure with hplace | ⟨fields, hplace, hassign⟩
    · exact ends_unplaced hplace state store
    · obtain ⟨next, hdatabase, hstamps, hiff⟩ := ends_placed hplace state store
      obtain ⟨hunbound, _⟩ := hstore fields next hplace hdatabase hstamps
      exact (hiff _ _).2 (hunbound failure hassign)
  · intro hnone
    obtain ⟨fields, hplace, a, hassign⟩ := Surroundings.obstacle?_eq_none hnone
    obtain ⟨next, hdatabase, hstamps, hiff⟩ := ends_placed hplace state store
    obtain ⟨_, hbound⟩ := hstore fields next hplace hdatabase hstamps
    obtain ⟨plain, school, hplain, hrelocates, hends⟩ := hbound a hassign
    exact ⟨fields, plain, school, located_of_place hplace, hplain, hrelocates, (hiff _ _).2 hends⟩

/-- How publishing fares beside the same with the geocoder off. -/
theorem fares_of_publish (h : state.database.Sound)
    (hoff : Ends around.unlocating state (publishAllowed draft caller) (.ok record) after) :
    Fares around state draft.address (publishAllowed draft caller) (state.database.grown .schools) := by
  obtain ⟨start, hdatabase, hstamps, hiff⟩ :=
    ends_placed (around.place_unlocating draft.address) state (publishAt draft caller)
  obtain ⟨stamp, number, hstamp, hinsert⟩ := ((hiff _ _).1 hoff).publishedAt
  rw [hdatabase] at hinsert
  rw [hstamps] at hstamp
  refine fares_of_store fun fields next hplace hnext hcount => ?_
  have hstamp' : stamp? (around.instant next.stamps) = some stamp := by
    rw [hcount]
    exact hstamp
  obtain ⟨hrefuses, htakes⟩ := insert_between h (located_of_place hplace).names hinsert
  rw [← hnext] at hrefuses htakes ⊢
  constructor
  · intro failure hfailure
    obtain ⟨hrefused, hrules⟩ := hrefuses failure hfailure
    exact ends_publishAt_error hstamp' hrefused hrules
  · intro b hb
    obtain ⟨plain, school, rfl, hrelocates, hwritten, hrecord⟩ := htakes b hb
    exact ⟨plain, school, ⟨record, hoff⟩, hrelocates, ends_publishAt hstamp' hwritten hrecord⟩

/-- How moving fares beside the same with the geocoder off. -/
theorem fares_of_revise (h : state.database.Sound)
    (hoff : Ends around.unlocating state (Schools.locationOf address >>= fun location =>
      reviseAt id change caller (Record.putAll change.record (filled location))) (.ok record) after) :
    Fares around state address (Schools.locationOf address >>= fun location =>
      reviseAt id change caller (Record.putAll change.record (filled location)))
      (state.database.amended .schools) := by
  obtain ⟨start, hdatabase, _, hiff⟩ := ends_placed (around.place_unlocating address) state
    fun location => reviseAt id change caller (Record.putAll change.record (filled location))
  obtain ⟨working, hupdate⟩ := ((hiff _ _).1 hoff).revisedAt (isEmpty_moved change (.inl rfl))
  rw [hdatabase] at hupdate
  refine fares_of_store fun fields next hplace hnext _ => ?_
  have hnames := (located_of_place hplace).names
  have hsome := isEmpty_moved change hnames
  obtain ⟨hrefuses, htakes⟩ := update_between h hnames hupdate
  rw [← hnext] at hrefuses htakes ⊢
  constructor
  · intro failure hfailure
    obtain ⟨hrefused, hrules⟩ := hrefuses failure hfailure
    exact ends_reviseAt_error working hsome hrefused hrules
  · intro b hb
    obtain ⟨plain, school, rfl, hrelocates, hwritten, hrecord⟩ := htakes b hb
    exact ⟨plain, school, ⟨record, hoff⟩, hrelocates, ends_reviseAt working hsome hwritten hrecord⟩

end Fares

/-- Only a text is the same as a text, and nothing that is stored is the same as a broken one. -/
theorem same_wording {cell : Cell} (h : ∀ s, address = .proper s → cell ≠ .text s) :
    cell.toDatum.same (.ofWording address) = false := by
  cases address with
  | proper s =>
    cases hsame : cell.toDatum.same (.ofWording (.proper s)) with
    | false => rfl
    | true => exact absurd (eq_of_same_text hsame) (h s rfl)
  | broken points =>
    cases cell <;>
      simp [Cell.toDatum, Datum.ofWording, Datum.same, Datum.sameNumber, Datum.wholeValue?, Datum.isNull]

end Service

/-! ## Results -/

namespace Operation

def draftAt (address : String) : SchoolDraft :=
  ⟨"Modern", "A school", none, none, none, .proper address⟩

def moveTo (address : String) : SchoolChange :=
  ⟨none, none, none, none, none, some (.proper address)⟩

/-- An admin registers and publishes a school at an address that the geocoder does not know. -/
def settled : List (Surroundings × Operation) :=
  [(calm, .register ⟨"Ada", "ada@example.com", "secret1", "user"⟩),
    (calm, .createSchool ⟨"Devworks", "A school", none, none, none, .proper "2 Side St"⟩ admin)]

/-- Surroundings with a geocoder that lists the parts of an address where its text should be. -/
def listing : Surroundings := { calm with
  geocode := fun _ => .answered (Bytes.ofText
    "[\x7b\"lat\": \"42.3\", \"lon\": \"-71.1\", \"display_name\": [\"1 Main St\", \"Boston\"]\x7d]") 200 }

/-- After every run, publishing a school or moving one to another address, where it succeeds with the
geocoder off, fails with the geocoder on exactly if there is an obstacle in the reply, and then changes
nothing. In all other cases it stores the same school, with the location of its address or with none. -/
theorem fares_of_run (requests : List (Surroundings × Operation)) (around : Surroundings)
    (caller : Caller) :
    let state := runAll .fresh requests
    (∀ draft record after,
      Ends around.unlocating state (Schools.create draft caller) (.ok record) after →
      Fares around state draft.address (Schools.create draft caller) (state.database.grown .schools)) ∧
    ∀ id change address record after, change.address = some address →
      (∀ school ∈ state.database.rows "schools", id.Denotes school.id →
        ∀ s, address = .proper s → school.cell "address" ≠ .text s) →
      Ends around.unlocating state (Schools.update id change caller) (.ok record) after →
      Fares around state address (Schools.update id change caller)
        (state.database.amended .schools) := by
  intro state
  have hsound : state.database.Sound := sound_run sound_fresh requests
  constructor
  · intro draft record after hoff
    rcases create_cases draft caller state with ⟨failure, hfails⟩ | hsame
    · obtain ⟨_, hrun, _⟩ := hoff
      exact nomatch (hfails _).symm.trans hrun
    · exact (fares_of_publish hsound (hoff.congr (hsame _).symm)).congr hsame
  · intro id change address record after haddress hmoves hoff
    have hdiffers : ∀ school, state.database.record? .schools id none = .ok (some school) →
        (Record.field school "address").same (.ofWording address) = false := by
      intro found hfound
      obtain ⟨school, hschool, hid, rfl⟩ := of_record?_some hsound .schools hfound
      exact (congrArg (Datum.same · _) (field_address school)).trans
        (same_wording (hmoves school hschool hid))
    rcases update_cases haddress id caller hdiffers with ⟨failure, hfails⟩ | hsame
    · obtain ⟨_, hrun, _⟩ := hoff
      exact nomatch (hfails _).symm.trans hrun
    · exact (fares_of_revise hsound (hoff.congr (hsame _).symm)).congr hsame

theorem fares_of_settled :
    let state := runAll .fresh settled
    (mapped.obstacle? (.proper "1 Main St") = none ∧
      Fares mapped state (.proper "1 Main St") (Schools.create (draftAt "1 Main St") admin)
        (state.database.grown .schools)) ∧
    ((listing.obstacle? (.proper "1 Main St")).isSome = true ∧
      Fares listing state (.proper "1 Main St") (Schools.update (.int 1) (moveTo "1 Main St") admin)
        (state.database.amended .schools)) := by
  intro state
  have hpublished :
      (run (Schools.create (draftAt "1 Main St") admin) mapped.unlocating state).1.isOk = true := by
    decide +kernel
  have hmoved :
      (run (Schools.update (.int 1) (moveTo "1 Main St") admin) listing.unlocating state).1.isOk = true := by
    decide +kernel
  have haway : ∀ school ∈ state.database.rows "schools", school.cell "address" = .text "2 Side St" := by
    decide +kernel
  obtain ⟨_, hcreate⟩ := exists_ends hpublished
  obtain ⟨_, hupdate⟩ := exists_ends hmoved
  refine ⟨⟨by decide +kernel, (fares_of_run settled mapped admin).1 _ _ _ hcreate⟩, by decide +kernel, ?_⟩
  have hmoves : ∀ school ∈ state.database.rows "schools", (Datum.int 1).Denotes school.id →
      ∀ s, .proper "1 Main St" = Wording.proper s → school.cell "address" ≠ .text s := by
    intro school hschool _ s hs hcell
    obtain rfl := Wording.proper.inj hs
    exact absurd ((haway school hschool).symm.trans hcell) (by decide)
  exact (fares_of_run settled listing admin).2 _ _ _ _ _ rfl hmoves hupdate

/-- A reply of a form that no column takes keeps a school from being published. -/
theorem blocked_by_reply :
    let state := runAll .fresh settled
    let operation := Schools.create (draftAt "1 Main St") admin
    (run operation listing.unlocating state).1.isOk = true ∧
      (run operation listing state).1.isOk = false ∧
      ((run operation listing state).2.database.rows "schools").length = 1 := by
  decide +kernel

end Operation
end SchoolCatalog
