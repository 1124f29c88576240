import SchoolCatalog.Proofs.Service.Writes

/-!
# Operations on courses and reviews

What each operation on courses and reviews achieves. Each writes one row and recomputes the average of
the school that the row names; the average never stands in the way of the write. A course is added by
whoever may change its school, a review by anyone; a course or review is changed or taken back by
whoever may change it.

Results:
1. `achieves_addTo`, `achieves_changeOf`, `achieves_removeFrom`: one write and its average, the same for
   courses and reviews.
2. `achieves_createCourse` to `achieves_deleteReview`: what each operation does if it answers.
-/

namespace SchoolCatalog

open Store Store.Database

namespace Service

variable {around : Surroundings} {db mid : Database} {a b : Aggregate} {s t : Int} {school : Datum}
  {values : Record} {row old : Row}

/-! ## The average that is due -/

theorem dueFor_iff (hrow : row.cell "school_id" = .int s) :
    dueFor a.layout row b t ↔ only a s b t := by
  rw [dueFor, hrow, only, Cell.int.injEq, eq_comm (a := s)]
  refine and_congr_left fun _ => ⟨fun hname => ?_, fun hsame => hsame ▸ rfl⟩
  cases a <;> cases b <;> first | rfl | exact absurd hname (by decide)

/-- What is lost with a course or review is that row itself, as no user goes. -/
theorem dueForDeletion_iff (h : db.Sound) (hold : old ∈ db.rows a.layout.name)
    (hs : old.cell "school_id" = .int s) :
    dueForDeletion db a.layout.name old.id b t ↔ only a s b t := by
  rw [← dueFor_iff hs]
  constructor
  · rintro ⟨r, hr, ⟨hname, hsame⟩ | ⟨hname, _⟩⟩
    · have hlayout := eq_of_name_eq b.kept_dependents.mem_standard a.kept_dependents.mem_standard hname
      obtain ⟨hr, hbelongs⟩ := List.mem_filter.1 hr
      obtain rfl := h.eq_of_id a.kept_dependents.mem_standard (hlayout ▸ hr) hold hsame
      exact ⟨hname, of_decide_eq_true hbelongs⟩
    · exact absurd hname (by cases a <;> decide)
  · rintro ⟨hname, hcell⟩
    have hold' : old ∈ db.rows b.layout.name := hname ▸ hold
    exact ⟨old, List.mem_filter.2 ⟨hold', decide_eq_true hcell⟩, .inl ⟨hname, rfl⟩⟩

/-- What comes after a write: a line of the log, and the average. -/
theorem ensures_finish (h : mid.Sound) (hs : school.Denotes s) (text : String)
    {later : Unit → Database → Prop}
    (hlater : ∀ after, Recomputed around mid after (only a s) → later () after) :
    Ensures around mid (do
      Service.info text
      a.recompute school {}) (Outcome db later) := by
  refine Ensures.info_bind ((Aggregate.ensures_recompute h hs).weaken ?_)
  rintro result after ⟨⟨done, rfl⟩, hafter⟩
  exact hlater after hafter

theorem ensures_finish_return (h : mid.Sound) (hs : school.Denotes s) (text : String)
    {record : Record} {later : Record → Database → Prop}
    (hlater : ∀ after, Recomputed around mid after (only a s) → later record after) :
    Ensures around mid (do
      Service.info text
      a.recompute school {}
      return record) (Outcome db later) := by
  refine Ensures.info_bind ((Aggregate.ensures_recompute h hs).bind ?_ ?_)
  · exact fun _ after hafter => Ensures.pure (hlater after hafter.2)
  · rintro failure after ⟨⟨done, hdone⟩, _⟩
    exact nomatch hdone

/-! ## Writing and recomputing -/

/-- What is done with a course or review that has been added to a school. -/
def addTo (a : Aggregate) (school : Datum) (inserted : Service Record) (text : Record → String) :
    Service Record := do
  let record ← inserted
  Service.info (text record)
  a.recompute school {}
  return record

/-- What is done to change a course or review that has been found. -/
def changeOf (a : Aggregate) (id : Datum) (values : Record) (missing : Failure) (text : String) :
    Service Record := do
  match ← ({} : Store).update a.dependents id values with
  | none => Service.fail missing
  | some updated =>
    Service.info text
    a.recompute (Record.field updated "school_id") {}
    return updated

/-- What is done to take back a course or review that has been found. -/
def removeFrom (a : Aggregate) (id : Datum) (found : Record) (text : String) : Service Unit := do
  let _ ← ({} : Store).delete a.dependents id
  Service.info text
  a.recompute (Record.field found "school_id") {}

theorem achieves_addTo (hschool : ("school_id", school) ∈ values)
    (honly : ∀ d, ("school_id", d) ∈ values → d = school) (hs : school.Denotes s)
    {inserted : Service Record} (hinserted : Achieves around db inserted fun record after =>
      ∃ row, db.Adds a.dependents a.layout values row ∧ after = db.grown a.layout row ∧
        record = row.record a.dependents a.layout) (text : Record → String) :
    Achieves around db (addTo a school inserted text) fun record after => ∃ row,
      db.Adds a.dependents a.layout values row ∧
      row.cell "school_id" = .int s ∧ (Effect.add a.layout row).Leaves around db after ∧
      record = row.record a.dependents a.layout := by
  refine hinserted.bind ?_
  rintro record mid ⟨row, hadds, rfl, rfl⟩
  have hcell := hadds.school_cell hschool honly hs
  refine ensures_finish_return hadds.sound hs _ fun after hafter => ?_
  refine ⟨row, hadds, hcell, ⟨_, hadds.makes a.kept_dependents, ?_⟩, rfl⟩
  exact hafter.weaken (fun _ _ => (dueFor_iff hcell).2) fun _ _ _ => (dueFor_iff hcell).1

theorem achieves_changeOf (h : db.Sound) (hold : old ∈ db.rows a.layout.name) {id : Datum}
    (hid : id.Denotes old.id) (values : Record) (missing : Failure) (text : String) :
    Achieves around db (changeOf a id values missing text) fun record after => ∃ row,
      db.Amends a.dependents a.layout values old row ∧
      (Effect.amend a.layout old row).Leaves around db after ∧
      record = row.record a.dependents a.layout := by
  have k := a.kept_dependents
  refine (achieves_update h k id values).bind ?_
  rintro updated mid (⟨rfl, rfl, _⟩ | ⟨same, row, hid', hamends, rfl, rfl⟩)
  · exact achieves_fail missing
  · obtain rfl := h.eq_of_id k.mem_standard hamends.mem hold (hid'.unique hid)
    have hmem := mem_amended_self h k.mem_standard hamends.mem hamends.same
    obtain ⟨s, hcell, hfield, hs⟩ := key_of_record hamends.sound k a.isKey_school hmem
    refine ensures_finish_return hamends.sound (hfield ▸ hs) _ fun after hafter => ?_
    refine ⟨row, hamends, ⟨_, hamends.makes k, ?_⟩, rfl⟩
    exact hafter.weaken (fun _ _ => (dueFor_iff hcell).2) fun _ _ _ => (dueFor_iff hcell).1

theorem achieves_removeFrom (h : db.Sound) (hold : old ∈ db.rows a.layout.name) {id : Datum}
    (hid : id.Denotes old.id) (text : String) :
    Achieves around db (removeFrom a id (old.record a.dependents a.layout) text) fun _ after =>
      (Effect.remove a.layout old).Leaves around db after := by
  have k := a.kept_dependents
  obtain ⟨s, hcell, hfield, hs⟩ := key_of_record h k a.isKey_school hold
  refine (achieves_delete h k id).bind ?_
  rintro _ mid (⟨_, rfl, hnone⟩ | ⟨_, same, hsame, hid', hdeleted⟩)
  · exact absurd hid (hnone old hold)
  · obtain rfl := h.eq_of_id k.mem_standard hsame hold (hid'.unique hid)
    refine ensures_finish (hdeleted.sound h) (hfield ▸ hs) text fun after hafter => ?_
    refine ⟨mid, .remove k hold hdeleted, ?_⟩
    exact hafter.weaken (fun _ _ => (dueForDeletion_iff h hold hcell).2)
      fun _ _ _ => (dueForDeletion_iff h hold hcell).1

/-! ## Values -/

/-- The values of a new course or review. -/
def addressed (record : Record) (school : Datum) (caller : Caller) : Record :=
  Record.putAll record [("school_id", school), ("user_id", caller.id)]

theorem no_school_courseChange (change : CourseChange) (d : Datum) : ("school_id", d) ∉ change.record :=
  fun hd => by simpa [CourseChange.fields] using mem_given hd

theorem no_school_reviewChange (change : ReviewChange) (d : Datum) : ("school_id", d) ∉ change.record :=
  fun hd => by simpa [ReviewChange.fields] using mem_given hd

theorem whole_reviewDraft (draft : ReviewDraft) (school : Datum) (caller : Caller) (d : Datum)
    (hd : ("rating", d) ∈ addressed draft.record school caller) : ∃ i, d = .int i := by
  rcases Record.mem_putAll hd with hd | hd
  · exact ⟨draft.rating, by simpa [ReviewDraft.record] using hd⟩
  · simp at hd

theorem whole_reviewChange (change : ReviewChange) (d : Datum) (hd : ("rating", d) ∈ change.record) :
    ∃ i, d = .int i := by
  have hfield := mem_given hd
  simp only [ReviewChange.fields, List.mem_cons, Prod.mk.injEq, List.not_mem_nil, or_false] at hfield
  rcases hfield with ⟨hname, _⟩ | ⟨hname, _⟩ | ⟨_, hvalue⟩
  · exact absurd hname (by decide)
  · exact absurd hname (by decide)
  · obtain ⟨i, _, hi⟩ := Option.map_eq_some_iff.1 hvalue.symm
    exact ⟨i, hi.symm⟩

/-- A school and a caller are named by values of any kind; the rules of the tables see to the rest. -/
theorem suiting_addressed (a : Aggregate) {record : Record} (hrecord : Suiting a.layout record)
    (school : Datum) (caller : Caller) : Suiting a.layout (addressed record school caller) := by
  refine suiting_putAll hrecord ?_
  simp only [Suiting, a.parents_dependents, List.forall_mem_cons]
  exact ⟨.inl (by simp), .inl (by simp), fun _ hnone => nomatch hnone⟩

theorem suiting_courseDraft (draft : CourseDraft) : Suiting .courses draft.record := by
  simp only [Suiting, CourseDraft.record, List.forall_mem_cons]
  exact ⟨.inr rfl, .inr rfl, .inr rfl, .inr rfl, .inr rfl, fun _ hnone => nomatch hnone⟩

theorem suiting_courseChange (change : CourseChange) : Suiting .courses change.record := by
  refine suiting_given ?_
  simp only [CourseChange.fields, List.forall_mem_cons, Option.map_eq_some_iff]
  refine ⟨?_, ?_, ?_, ?_, ?_, fun _ hnone => nomatch hnone⟩
  all_goals
    rintro _ ⟨_, _, rfl⟩
    rfl

theorem suiting_reviewDraft (draft : ReviewDraft) : Suiting .reviews draft.record := by
  simp only [Suiting, ReviewDraft.record, List.forall_mem_cons]
  exact ⟨.inr rfl, .inr (suits_wording _), .inr rfl, fun _ hnone => nomatch hnone⟩

theorem suiting_reviewChange (change : ReviewChange) : Suiting .reviews change.record := by
  refine suiting_given ?_
  simp only [ReviewChange.fields, List.forall_mem_cons, Option.map_eq_some_iff]
  refine ⟨?_, ?_, ?_, fun _ hnone => nomatch hnone⟩
  all_goals
    rintro _ ⟨_, _, rfl⟩
    first | rfl | exact suits_wording _

/-! ## Courses -/

/-- Adding a course to a school. -/
theorem achieves_createCourse (h : db.Sound) (school : Datum) (draft : CourseDraft) (caller : Caller) :
    Achieves around db (Courses.create school draft caller) fun record after => ∃ owner row,
      Allows db .schools .schools caller school owner ∧
      db.Adds .courses .courses (addressed draft.record school caller) row ∧
      row.cell "school_id" = .int owner.id ∧ (Effect.add .courses row).Leaves around db after ∧
      record = row.record .courses .courses := by
  unfold Courses.create
  refine (finds_of_eq (ensures_getRecord school none)).bind fun found hfound => ?_
  cases found with
  | none => exact achieves_fail _
  | some record =>
    obtain ⟨owner, howner, hs, rfl⟩ := of_record?_some h .schools hfound
    refine (finds_ensureOwner caller _ _).bind fun _ hmay => ?_
    have habsent : ∀ d, ("school_id", d) ∉ draft.record := by simp [CourseDraft.record]
    obtain ⟨hschool, honly⟩ := mem_addressed school caller.id habsent
    refine (achieves_addTo (a := .cost) hschool honly hs (achieves_insert h .courses _) _).weaken ?_
    rintro record after ⟨row, hadds, hcell, hleaves, hrecord⟩
    exact ⟨owner, row, ⟨howner, hs, hmay⟩, hadds, hcell, hleaves, hrecord⟩

/-- Changing a course. -/
theorem achieves_updateCourse (h : db.Sound) (id : Datum) (change : CourseChange) (caller : Caller) :
    Achieves around db (Courses.update id change caller) fun record after => ∃ old row,
      Allows db .courses .courses caller id old ∧
      db.Amends .courses .courses change.record old row ∧
      (Effect.amend .courses old row).Leaves around db after ∧
      record = row.record .courses .courses := by
  unfold Courses.update
  refine Finds.owned_bind .courses (finds_record h .courses id _) fun old hold => ?_
  refine (achieves_changeOf (a := .cost) h hold.mem hold.denotes change.record _ _).weaken ?_
  rintro record after ⟨row, hchanged⟩
  exact ⟨old, row, hold, hchanged⟩

/-- Taking a course back. -/
theorem achieves_deleteCourse (h : db.Sound) (id : Datum) (caller : Caller) :
    Achieves around db (Courses.delete id caller) fun _ after => ∃ old,
      Allows db .courses .courses caller id old ∧
      (Effect.remove .courses old).Leaves around db after := by
  unfold Courses.delete
  refine Finds.owned_bind .courses (finds_record h .courses id _) fun old hold => ?_
  exact (achieves_removeFrom (a := .cost) h hold.mem hold.denotes _).weaken fun _ after hafter =>
    ⟨old, hold, hafter⟩

/-! ## Reviews -/

/-- Reviewing a school. -/
theorem achieves_createReview (h : db.Sound) (school : Datum) (draft : ReviewDraft) (caller : Caller) :
    Achieves around db (Reviews.create school draft caller) fun record after => ∃ reviewed row,
      reviewed ∈ db.rows Layout.schools.name ∧ school.Denotes reviewed.id ∧
      db.Adds .reviews .reviews (addressed draft.record school caller) row ∧
      row.cell "school_id" = .int reviewed.id ∧ (Effect.add .reviews row).Leaves around db after ∧
      record = row.record .reviews .reviews := by
  unfold Reviews.create
  refine (finds_of_eq (ensures_getRecord school (some ["id"]))).bind fun found hfound => ?_
  cases found with
  | none => exact Ensures.fail_bind rfl
  | some record =>
    obtain ⟨reviewed, hreviewed, hs, _⟩ := of_record?_some h .schools hfound
    have habsent : ∀ d, ("school_id", d) ∉ draft.record := by simp [ReviewDraft.record]
    obtain ⟨hschool, honly⟩ := mem_addressed school caller.id habsent
    refine (achieves_addTo (a := .rating) hschool honly hs ?_ _).weaken ?_
    · refine (achieves_insert h .reviews _).wording fun rule => ?_
      exact Achieves.read_bind (spares_info lasting_database _) fun _ => achieves_fail _
    · rintro record after ⟨row, hadds, hcell, hleaves, hrecord⟩
      exact ⟨reviewed, row, hreviewed, hs, hadds, hcell, hleaves, hrecord⟩

/-- Changing a review. -/
theorem achieves_updateReview (h : db.Sound) (id : Datum) (change : ReviewChange) (caller : Caller) :
    Achieves around db (Reviews.update id change caller) fun record after => ∃ old row,
      Allows db .reviews .reviews caller id old ∧
      db.Amends .reviews .reviews change.record old row ∧
      (Effect.amend .reviews old row).Leaves around db after ∧
      record = row.record .reviews .reviews := by
  unfold Reviews.update
  refine Finds.owned_bind .reviews (finds_record h .reviews id _) fun old hold => ?_
  refine (achieves_changeOf (a := .rating) h hold.mem hold.denotes change.record _ _).weaken ?_
  rintro record after ⟨row, hchanged⟩
  exact ⟨old, row, hold, hchanged⟩

/-- Taking a review back. -/
theorem achieves_deleteReview (h : db.Sound) (id : Datum) (caller : Caller) :
    Achieves around db (Reviews.delete id caller) fun _ after => ∃ old,
      Allows db .reviews .reviews caller id old ∧
      (Effect.remove .reviews old).Leaves around db after := by
  unfold Reviews.delete
  refine Finds.owned_bind .reviews (finds_record h .reviews id _) fun old hold => ?_
  exact (achieves_removeFrom (a := .rating) h hold.mem hold.denotes _).weaken fun _ after hafter =>
    ⟨old, hold, hafter⟩

end Service
end SchoolCatalog
