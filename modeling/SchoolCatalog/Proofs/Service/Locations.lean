import SchoolCatalog.Proofs.Service.Origins
import SchoolCatalog.Proofs.Service.Runs

/-!
# Locations of schools

A school carries the location that the geocoder gives for its address, or none at all. Publishing and
moving write all location fields at once, for the address that is written with them; every other
operation leaves the fields and the address alone. The geocoder may be switched off and on between
operations, as long as it answers an address in the same way whenever it is asked.

Results:
1. `placed_of_published`, `placed_of_changed`: what publishing and changing a school store.
2. `placed_of_run`: after every run a school has no location, or that of its address.
-/

namespace SchoolCatalog

open Store Store.Database

open Service

/-- The location fields of a school are all empty, or they all hold what the geocoder says of the address
that the school has. -/
def Store.Row.Placed (geocode : Wording → Geo.Reply) (school : Row) : Prop :=
  (∀ name ∈ Geo.locationFields, school.cell name = .null) ∨
    ∃ address location, school.cell "address" = .text address ∧
      Geo.Location.ofReply (.proper address) (geocode (.proper address)) = .ok location ∧
      ∀ name ∈ Geo.locationFields, ∃ v, Cell.bind (Record.field location.record name) = .ok v ∧
        school.cell name = (Layout.schools.affinity (.column name)).store v

/-- What leaves the address and the location fields alone leaves a school placed. -/
theorem Store.Row.Placed.congr {geocode : Wording → Geo.Reply} {old school : Row}
    (h : old.Placed geocode)
    (hcells : ∀ name ∈ "address" :: Geo.locationFields, school.cell name = old.cell name) :
    school.Placed geocode := by
  rcases h with hnull | ⟨address, location, haddress, hreply, hfields⟩
  · refine .inl fun name hname => ?_
    rw [hcells name (List.mem_cons_of_mem _ hname)]
    exact hnull name hname
  · refine .inr ⟨address, location, (hcells _ (List.mem_cons_self ..)).trans haddress, hreply, ?_⟩
    intro name hname
    rw [hcells name (List.mem_cons_of_mem _ hname)]
    exact hfields name hname

namespace Service

variable {around : Surroundings} {db : Database} {geocode : Wording → Geo.Reply}
  {school old : Row} {address : Wording}

/-! ## Fields of a location -/

theorem located_columns :
    ∀ name ∈ "address" :: Geo.locationFields, name ≠ "created_at" ∧
      ∃ col ∈ Layout.schools.columns, col.name = name := by
  decide

/-- The name of a location field stands in the record with the value of the field. -/
theorem mem_location (location : Geo.Location) {name : String} (hname : name ∈ Geo.locationFields) :
    (name, Record.field location.record name) ∈ location.record := by
  revert name
  simp [Geo.locationFields, Geo.Location.record, Record.field, Record.get?, List.lookup]

theorem mem_noLocation {name : String} (hname : name ∈ Geo.locationFields) :
    (name, Datum.null) ∈ Geo.noLocation :=
  List.mem_map_of_mem hname

/-- A school that stores the location of its address, or empty location fields, is placed. -/
theorem placed_of_stores {fields : Record}
    (haddress : school.Stores .schools [("address", .ofWording address)])
    (hlocated : Located around address fields) (hsame : around.geocode = geocode)
    (hempty : fields = [] → ∀ name ∈ Geo.locationFields, school.cell name = .null)
    (hstores : school.Stores .schools fields) : school.Placed geocode := by
  subst hsame
  cases hlocated with
  | disabled _ => exact .inl (hempty rfl)
  | unknown _ _ => exact .inl (hempty rfl)
  | known _ hreply =>
    obtain ⟨s, rfl, hcell⟩ := haddress.wording (by decide)
    exact .inr ⟨s, _, hcell, hreply, fun name hname => hstores _ (mem_location _ hname)⟩

/-! ## Publishing -/

theorem Located.names {fields : Record} (h : Located around address fields) :
    fields = [] ∨ Record.names fields = Geo.locationFields := by
  cases h with
  | disabled _ => exact .inl rfl
  | unknown _ _ => exact .inl rfl
  | known _ _ => exact .inr rfl

/-- The values of a new school are those of the draft, the location and the owner. -/
theorem newSchool_eq (draft : SchoolDraft) {fields : Record} (caller : Caller)
    (hnames : fields = [] ∨ Record.names fields = Geo.locationFields) :
    newSchool draft fields caller = draft.record ++ fields ++ [("user_id", caller.id)] ∧
      (Record.names (draft.record ++ fields ++ [("user_id", caller.id)])).Nodup := by
  have hall : (Record.names (draft.record ++ fields ++ [("user_id", caller.id)])).Nodup := by
    rcases hnames with rfl | hnames
    · exact (by decide : (["name", "description", "website", "phone", "email", "address",
        "user_id"] : List String).Nodup)
    · have hsplit : Record.names (draft.record ++ fields ++ [("user_id", caller.id)]) =
          Record.names draft.record ++ Record.names fields ++ ["user_id"] := by
        simp [Record.names]
      rw [hsplit, hnames]
      exact (by decide : (["name", "description", "website", "phone", "email", "address"] ++
        Geo.locationFields ++ ["user_id"]).Nodup)
  have hfront : (Record.names (draft.record ++ fields)).Nodup := by
    rw [Record.names, List.map_append] at hall
    exact (List.nodup_append.1 hall).1
  have howner : Record.putAll (draft.record ++ fields) [("user_id", caller.id)] =
      draft.record ++ fields ++ [("user_id", caller.id)] := Record.putAll_of_nodup hall
  refine ⟨?_, hall⟩
  rw [newSchool, Record.putAll_of_nodup hfront]
  exact howner

/-- A new school is placed. -/
theorem placed_of_published (hsame : around.geocode = geocode) {draft : SchoolDraft} {caller : Caller}
    {fields : Record} (hlocated : Located around draft.address fields)
    (hadds : db.Adds .schools .schools (newSchool draft fields caller) school) :
    school.Placed geocode := by
  obtain ⟨heq, hnodup⟩ := newSchool_eq draft caller hlocated.names
  rw [heq] at hadds
  refine placed_of_stores ?_ hlocated hsame ?_ ?_
  · refine hadds.stores .schools hnodup ?_ fun entry hentry => ?_
    · simp [SchoolDraft.record]
    · rw [List.mem_singleton.1 hentry]
      exact located_columns "address" (List.mem_cons_self ..)
  · rintro rfl name hname
    obtain ⟨hstamp, col, hcol, rfl⟩ := located_columns name (List.mem_cons_of_mem _ hname)
    rw [hadds.cell_default hcol hstamp fun d hd => ?_]
    · exact (by decide : ∀ col ∈ Layout.schools.columns, col.name ∈ Geo.locationFields →
        col.default = .null) col hcol hname
    · have hdraft : col.name ∈ Record.names (draft.record ++ [] ++ [("user_id", caller.id)]) :=
        List.mem_map_of_mem hd
      exact absurd hname ((by decide : ∀ name ∈ ["name", "description", "website", "phone", "email",
        "address", "user_id"], name ∉ Geo.locationFields) _ hdraft)
  · refine hadds.stores .schools hnodup (fun entry hentry => by simp [hentry]) fun entry hentry => ?_
    rcases hlocated.names with rfl | hnames
    · cases hentry
    · exact located_columns _ (List.mem_cons_of_mem _ (hnames ▸ List.mem_map_of_mem hentry))

/-! ## Changing -/

/-- The fields that a change of a school may give. -/
theorem names_change (change : SchoolChange) : (Record.names change.record).Sublist
    ["name", "description", "website", "phone", "email", "address"] :=
  names_given change.fields

theorem unlocated_change (change : SchoolChange) {name : String} (hname : name ∈ Geo.locationFields)
    (d : Datum) : (name, d) ∉ change.record := fun hd =>
  absurd hname ((by decide : ∀ name ∈ ["name", "description", "website", "phone", "email", "address"],
    name ∉ Geo.locationFields) _ ((names_change change).subset (List.mem_map_of_mem hd)))

theorem nodup_change (change : SchoolChange) : (Record.names change.record).Nodup :=
  (by decide : (["name", "description", "website", "phone", "email", "address"] : List String).Nodup).sublist
    (names_change change)

/-- The address that a change gives. -/
theorem address_given {change : SchoolChange} {d : Datum} (hd : ("address", d) ∈ change.record) :
    ∃ w, change.address = some w ∧ Datum.ofWording w = d := by
  have hfield := mem_given hd
  simp only [SchoolChange.fields, List.mem_cons, Prod.mk.injEq, List.not_mem_nil, or_false] at hfield
  have haddress : change.address.map Datum.ofWording = some d := by simpa [eq_comm] using hfield
  exact Option.map_eq_some_iff.1 haddress

/-- The values of a school that moves are those of the change and of its new location. -/
theorem moved_eq (change : SchoolChange) {fields : Record}
    (hnames : Record.names fields = Geo.locationFields) :
    Record.putAll change.record fields = change.record ++ fields ∧
      (Record.names (change.record ++ fields)).Nodup := by
  have hall : (Record.names (change.record ++ fields)).Nodup := by
    rw [Record.names, List.map_append, ← Record.names, ← Record.names, hnames]
    exact ((by decide : (["name", "description", "website", "phone", "email", "address"] ++
      Geo.locationFields).Nodup)).sublist ((names_change change).append_right _)
  exact ⟨Record.putAll_of_nodup hall, hall⟩

/-- The location fields that a school is given: null where there is no location. -/
def filled (location : Record) : Record := if location.isEmpty then Geo.noLocation else location

theorem names_filled {location : Record}
    (hnames : location = [] ∨ Record.names location = Geo.locationFields) :
    Record.names (filled location) = Geo.locationFields := by
  unfold filled
  rcases hnames with rfl | hnames
  · rfl
  · cases location with
    | nil => exact nomatch hnames
    | cons _ _ => exact hnames

/-- What a change of a school writes is what it gives, and a location if the school moves. -/
theorem ChangedSchool.eq_append {change : SchoolChange} {school values : Record}
    (h : ChangedSchool around change school values) :
    ∃ location, values = change.record ++ location ∧ (Record.names values).Nodup ∧
      ∀ name ∈ Record.names location, name ∈ Geo.locationFields := by
  cases h with
  | stays _ =>
    refine ⟨[], (List.append_nil _).symm, nodup_change change, ?_⟩
    intro name hname
    exact nomatch hname
  | @moves _ location _ _ hlocated =>
    have hnames := names_filled hlocated.names
    obtain ⟨heq, hnodup⟩ := moved_eq change hnames
    refine ⟨filled location, heq, heq ▸ hnodup, ?_⟩
    rw [hnames]
    exact fun _ hname => hname

/-- Only a text is the same as a text. -/
theorem eq_of_same_text {cell : Cell} {s : String} (h : cell.toDatum.same (.text s) = true) :
    cell = .text s := by
  cases cell <;> simp_all [Cell.toDatum, Datum.same, Datum.sameNumber, Datum.wholeValue?, Datum.isNull]

/-- The address that the record of a school shows. -/
theorem field_address (row : Row) :
    Record.field (row.record .schools .schools) "address" = (row.cell "address").toDatum := by
  rw [field_record .schools row (by decide)]
  rfl

/-- A school that keeps its address keeps its place. -/
theorem placed_of_stays (hbefore : old.Placed geocode) {change : SchoolChange}
    (hstays : ∀ address, change.address = some address →
      (Record.field (old.record .schools .schools) "address").same (.ofWording address) = true)
    (hamends : db.Amends .schools .schools change.record old school) : school.Placed geocode := by
  refine hbefore.congr fun name hname => ?_
  obtain ⟨_, col, hcol, rfl⟩ := located_columns name hname
  rcases List.mem_cons.1 hname with haddress | hname
  · rcases hamends.written col hcol with ⟨d, v, hd, hv, hcell⟩ | ⟨_, hcell⟩
    · -- an address that is given is the one that the school had
      rw [haddress] at hd ⊢
      obtain ⟨w, hw, rfl⟩ := address_given (mem_writable hd)
      have hstores : school.Stores .schools [("address", .ofWording w)] := by
        refine hamends.stores .schools (nodup_change change) (fun entry hentry => ?_) fun entry hentry => ?_
        · rw [List.mem_singleton.1 hentry]
          exact mem_writable hd
        · rw [List.mem_singleton.1 hentry]
          exact ⟨col, hcol, haddress⟩
      obtain ⟨s, rfl, hnow⟩ := hstores.wording (by decide)
      have hsame := hstays _ hw
      rw [field_address] at hsame
      rw [hnow, eq_of_same_text hsame]
    · exact hcell
  · exact hamends.cell_eq hcol (unlocated_change change hname)

/-- What a school that moves stores: its new address, and the location fields that it is given. -/
theorem stores_moved {change : SchoolChange} {address : Wording} {fields : Record}
    (haddress : change.address = some address) (hnames : Record.names fields = Geo.locationFields)
    (hamends : db.Amends .schools .schools (Record.putAll change.record fields) old school) :
    school.Stores .schools [("address", .ofWording address)] ∧ school.Stores .schools fields := by
  have hgiven : ("address", Datum.ofWording address) ∈ change.record :=
    given_of_mem (by simp [SchoolChange.fields, haddress])
  obtain ⟨heq, hnodup⟩ := moved_eq change hnames
  rw [heq] at hamends
  constructor
  · refine hamends.stores .schools hnodup ?_ fun entry hentry => ?_
    · simp [hgiven]
    · rw [List.mem_singleton.1 hentry]
      exact (located_columns "address" (List.mem_cons_self ..)).2
  · refine hamends.stores .schools hnodup (fun entry hentry => by simp [hentry]) fun entry hentry => ?_
    exact (located_columns _ (List.mem_cons_of_mem _ (hnames ▸ List.mem_map_of_mem hentry))).2

/-- A school that moves is placed by its new address. -/
theorem placed_of_moves (hsame : around.geocode = geocode) {change : SchoolChange} {address : Wording}
    {location : Record} (haddress : change.address = some address)
    (hlocated : Located around address location)
    (hamends : db.Amends .schools .schools (Record.putAll change.record (filled location)) old school) :
    school.Placed geocode := by
  obtain ⟨htext, hlocation⟩ := stores_moved haddress (names_filled hlocated.names) hamends
  rcases hlocated.names with rfl | hnames
  · refine placed_of_stores htext hlocated hsame (fun _ name hname => ?_) fun entry hentry =>
      absurd hentry List.not_mem_nil
    obtain ⟨v, hv, hcell⟩ := hlocation _ (mem_noLocation hname)
    obtain rfl := Except.ok.inj hv
    rw [hcell]
    cases Layout.schools.affinity (.column name) <;> rfl
  · cases location with
    | nil => cases hnames
    | cons field fields => exact placed_of_stores htext hlocated hsame (fun hnil => nomatch hnil) hlocation

/-- A school that was placed is placed after it was changed. -/
theorem placed_of_changed (hsame : around.geocode = geocode) (hbefore : old.Placed geocode)
    {change : SchoolChange} {values : Record}
    (hvalues : ChangedSchool around change (old.record .schools .schools) values)
    (hamends : db.Amends .schools .schools values old school) : school.Placed geocode := by
  cases hvalues with
  | stays hstays => exact placed_of_stays hbefore hstays hamends
  | moves haddress _ hlocated => exact placed_of_moves hsame haddress hlocated hamends

end Service

/-! ## Runs -/

namespace Operation

variable {state : State} {geocode : Wording → Geo.Reply}

/-- A step that asks the geocoder leaves all schools placed. -/
theorem placed_of_step (h : state.database.Sound) {request : Surroundings × Operation}
    (hsame : request.1.geocode = geocode)
    (hbefore : ∀ school ∈ state.database.rows "schools", school.Placed geocode) :
    ∀ school ∈ (step state request).database.rows "schools", school.Placed geocode := by
  intro school hschool
  have hfrom := school_of_step h request hschool
  obtain ⟨around, operation⟩ := request
  cases hfrom with
  | kept hold _ hcells =>
    exact (hbefore _ hold).congr fun name hname =>
      hcells name ((by decide : ∀ name ∈ "address" :: Geo.locationFields, name ∈ describing) name hname)
        ((by decide : ∀ name ∈ "address" :: Geo.locationFields, name ≠ "photo") name hname)
  | published _ hlocated hadds => exact placed_of_published hsame hlocated hadds
  | changed hold hvalues hamends => exact placed_of_changed hsame (hbefore _ hold.mem) hvalues hamends

/-- Surroundings with a geocoder that knows one address. -/
def mapped : Surroundings := { calm with
  geocode := fun address =>
    if address = .proper "1 Main St" then
      .answered (Bytes.ofText
        "[\x7b\"lat\": \"42.35\", \"lon\": \"-71.06\", \"display_name\": \"Boston\"\x7d]") 200
    else .unreachable }

/-- The same with the geocoder switched off. -/
def unmapped : Surroundings := { mapped with settings := { geocoderProvider := "off" } }

/-- A school is published, and renamed while the geocoder is off. -/
def located : List (Surroundings × Operation) :=
  [(mapped, .register ⟨"Ada", "ada@example.com", "secret1", "user"⟩),
    (mapped, .createSchool ⟨"Devworks", "A school", none, none, none, .proper "1 Main St"⟩ admin),
    (unmapped, .updateSchool (.int 1) ⟨some "Modern", none, none, none, none, none⟩ admin)]

/-- After every run each school has no location, or the one that the geocoder gives for its address. -/
theorem placed_of_run (geocode : Wording → Geo.Reply) (requests : List (Surroundings × Operation))
    (hsame : ∀ request ∈ requests, request.1.geocode = geocode) :
    ∀ school ∈ (runAll .fresh requests).database.rows "schools", school.Placed geocode := by
  induction requests using List.reverseRecOn with
  | nil =>
    intro school hschool
    have hnone : Database.fresh.rows "schools" = [] := rows_fresh Kept.schools.mem_standard
    exact nomatch hnone ▸ hschool
  | append_singleton requests request ih =>
    rw [runAll_concat]
    refine placed_of_step (sound_run sound_fresh requests) ?_ ?_
    · exact hsame request (List.mem_append_right _ (List.mem_singleton_self _))
    · exact ih fun earlier hearlier => hsame earlier (List.mem_append_left _ hearlier)

theorem placed_of_located : (∀ request ∈ located, request.1.geocode = mapped.geocode) ∧
    ∃ school ∈ (runAll .fresh located).database.rows "schools",
      school.cell "name" = .text "Modern" ∧ school.cell "latitude" ≠ .null ∧
        school.Placed mapped.geocode := by
  have hsame : ∀ request ∈ located, request.1.geocode = mapped.geocode := by
    simp [located, unmapped]
  have hschool : ∃ school ∈ (runAll .fresh located).database.rows "schools",
      school.cell "name" = .text "Modern" ∧ school.cell "latitude" ≠ .null := by
    decide +kernel
  obtain ⟨school, hschool, hname, hlatitude⟩ := hschool
  exact ⟨hsame, school, hschool, hname, hlatitude, placed_of_run _ located hsame school hschool⟩

end Operation
end SchoolCatalog
