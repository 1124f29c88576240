import SchoolCatalog.Proofs.Service.Steps

/-!
# Where schools and reviews come from

What a row that is there after an operation has to do with the operation. A school was there before with
all that describes it, or the operation published it, or the operation changed it; recomputing writes
averages and an upload writes the name of a photo, and nothing else touches a school. A review was there
before, or the operation wrote it or changed it.

Results:
1. `Leaves.mem_school`: a school after an effect was there before, or the effect puts it there.
2. `school_of_step`, `review_of_step`: where a school or review comes from in a step.
-/

namespace SchoolCatalog

open Store Store.Database

open Service

namespace Effect

variable {around : Surroundings} {db after : Database} {effect : Effect}

/-- A school is, but for averages, one that was there before or that the write puts there. -/
theorem Leaves.mem_school (h : db.Sound) (hl : effect.Leaves around db after) {school : Row}
    (hschool : school ∈ after.rows "schools") :
    ∃ between : Row, school.id = between.id ∧
      (∀ name ∈ describing, school.cell name = between.cell name) ∧
      (between ∈ db.rows "schools" ∨ effect = .add .schools between ∨
        ∃ old ∈ db.rows "schools", between.id = old.id ∧ effect = .amend .schools old between) := by
  obtain ⟨mid, hm, hafter⟩ := hl
  have haveraged := hafter.averaged
  have hid : school.id ∈ (mid.rows "schools").map (·.id) :=
    haveraged.ids ▸ List.mem_map_of_mem hschool
  obtain ⟨between, hbetween, hsame⟩ := List.mem_map.1 hid
  obtain ⟨now, hnow, hnowid, hcells⟩ := haveraged.schools between hbetween
  obtain rfl := haveraged.sound.eq_of_id Kept.schools.mem_standard hnow hschool (hnowid.trans hsame)
  refine ⟨between, hsame.symm, fun name hname => ?_,
    hm.mem_row h Kept.schools.mem_standard hbetween⟩
  obtain ⟨col, hcol, rfl⟩ : ∃ col ∈ Layout.schools.columns, col.name = name :=
    (by decide : ∀ name ∈ describing, ∃ col ∈ Layout.schools.columns, col.name = name)
      name hname
  rcases hcells col hcol with hcell | ⟨a, _, haverage, _⟩
  · exact hcell
  · exact absurd (haverage ▸ hname) (by cases a <;> decide)

end Effect

namespace Operation

variable {around : Surroundings} {db : Database} {state : State} {operation : Operation}
  {school review : Row}

/-- Where a school that is there after an operation comes from. -/
inductive SchoolFrom (around : Surroundings) (db : Database) : Operation → Row → Prop
  | kept {operation : Operation} {old school : Row} : old ∈ db.rows "schools" →
      school.id = old.id →
      (∀ name ∈ describing, name ≠ "photo" → school.cell name = old.cell name) →
      SchoolFrom around db operation school
  | published {draft : SchoolDraft} {caller : Caller} {location : Record} {school : Row} :
      caller.isAdmin = true ∨ OwnsNone db caller.id → Located around draft.address location →
      db.Adds .schools .schools (newSchool draft location caller) school →
      SchoolFrom around db (createSchool draft caller) school
  | changed {id : Datum} {change : SchoolChange} {caller : Caller} {values : Record}
      {old school : Row} :
      Allows db .schools .schools caller id old →
      ChangedSchool around change (old.record .schools .schools) values →
      db.Amends .schools .schools values old school →
      SchoolFrom around db (updateSchool id change caller) school

/-- Where a review that is there after an operation comes from. -/
inductive ReviewFrom (db : Database) : Operation → Row → Prop
  | kept {operation : Operation} {review : Row} : review ∈ db.rows "reviews" →
      ReviewFrom db operation review
  | written {school : Datum} {draft : ReviewDraft} {caller : Caller} {review : Row} :
      db.Adds .reviews .reviews (addressed draft.record school caller) review →
      ReviewFrom db (createReview school draft caller) review
  | changed {id : Datum} {change : ReviewChange} {caller : Caller} {old review : Row} :
      Allows db .reviews .reviews caller id old →
      db.Amends .reviews .reviews change.record old review →
      ReviewFrom db (updateReview id change caller) review

/-! ## Schools -/

theorem SchoolFrom.unchanged (hschool : school ∈ db.rows "schools") :
    SchoolFrom around db operation school :=
  .kept hschool rfl fun _ _ _ => rfl

/-- Where one school was amended, each is that one or was there before. -/
theorem schools_of_amended (h : db.Sound) {values : Record} {old row : Row}
    (hamends : db.Amends .schools .schools values old row)
    (hrow : SchoolFrom around db operation row) :
    ∀ school ∈ (db.amended .schools row).rows "schools", SchoolFrom around db operation school := by
  intro school hschool
  have hl := Kept.schools.mem_standard
  rcases mem_amended h hl hl hschool with ⟨hold, _⟩ | ⟨_, rfl⟩
  · exact .unchanged hold
  · exact hrow

/-- An effect that puts no school there leaves those that were there. -/
theorem schools_of_leaves (h : db.Sound) {effect : Effect} {after : Database}
    (hl : effect.Leaves around db after) (hadd : ∀ m row, effect = .add m row → m.name ≠ "schools")
    (hamend : ∀ m old row, effect = .amend m old row → m.name ≠ "schools") :
    ∀ school ∈ after.rows "schools", SchoolFrom around db operation school := by
  intro school hschool
  obtain ⟨between, hid, hcells, hbefore | hadds | ⟨old, _, _, hamends⟩⟩ := hl.mem_school h hschool
  · exact .kept hbefore hid fun name hname _ => hcells name hname
  · exact absurd rfl (hadd _ _ hadds)
  · exact absurd rfl (hamend _ _ _ hamends)

/-- Where the schools after an operation that answers come from. -/
theorem schools_of_perform (h : db.Sound) (operation : Operation) :
    Achieves around db operation.perform fun _ after =>
      ∀ school ∈ after.rows "schools", SchoolFrom around db operation school := by
  cases operation with
  | createSchool draft caller =>
    refine Achieves.map ((achieves_createSchool h draft caller).weaken ?_)
    rintro _ after ⟨hallowed, location, row, hlocation, hadds, rfl, _⟩ school hschool
    have hl := Kept.schools.mem_standard
    rcases mem_grown h hl hl hschool with hold | ⟨_, rfl⟩
    · exact .unchanged hold
    · exact .published hallowed hlocation hadds
  | updateSchool id change caller =>
    refine Achieves.map ((achieves_updateSchool h id change caller).weaken ?_)
    rintro _ after ⟨old, row, values, hold, hvalues, hamends, rfl, _⟩
    exact schools_of_amended h hamends (.changed hold hvalues hamends)
  | uploadPhoto id filename contentType content caller =>
    refine Achieves.map ((achieves_uploadPhoto h id filename contentType content caller).weaken ?_)
    rintro _ after ⟨old, hold, ⟨_, rfl⟩ | ⟨row, hamends, rfl⟩⟩
    · exact fun school => .unchanged
    · refine schools_of_amended h hamends (.kept hold.mem hamends.same fun name hname hphoto => ?_)
      obtain ⟨col, hcol, rfl⟩ : ∃ col ∈ Layout.schools.columns, col.name = name :=
        (by decide : ∀ name ∈ describing, ∃ col ∈ Layout.schools.columns, col.name = name)
          name hname
      exact hamends.cell_eq hcol (by simpa using hphoto)
  | _ =>
    -- no other operation may write a school
    refine (effect_of_perform h _).weaken ?_
    rintro _ after ⟨effect, hmay, _, _, hleaves⟩
    refine schools_of_leaves h hleaves ?_ ?_
    · cases hmay <;> rintro m row ⟨⟩ <;> decide
    · cases hmay <;> rintro m old row ⟨⟩ <;> decide

/-- Where each school after a step comes from. -/
theorem school_of_step (h : state.database.Sound) (request : Surroundings × Operation)
    (hschool : school ∈ (step state request).database.rows "schools") :
    SchoolFrom request.1 state.database request.2 school := by
  rcases step_of_achieves (schools_of_perform h request.2) with hsame | ⟨_, hdone⟩
  · exact .unchanged (hsame ▸ hschool)
  · exact hdone school hschool

/-! ## Reviews -/

/-- Where a review after an effect comes from, by what the operation may write. -/
theorem reviews_of_leaves (h : db.Sound) {effect : Effect} {after : Database}
    (hl : effect.Leaves around db after)
    (hadd : ∀ m row, effect = .add m row → m.name = "reviews" → ReviewFrom db operation row)
    (hamend : ∀ m old row, effect = .amend m old row → m.name = "reviews" →
      ReviewFrom db operation row) :
    ∀ review ∈ after.rows "reviews", ReviewFrom db operation review := by
  intro review hreview
  have hne : Layout.reviews.name ≠ "schools" := by decide
  rcases hl.mem_row h Kept.reviews.mem_standard hne hreview with hold | hadds | ⟨old, _, _, hamends⟩
  · exact .kept hold
  · exact hadd _ review hadds rfl
  · exact hamend _ old review hamends rfl

/-- Where the reviews after an operation that answers come from. -/
theorem reviews_of_perform (h : db.Sound) (operation : Operation) :
    Achieves around db operation.perform fun _ after =>
      ∀ review ∈ after.rows "reviews", ReviewFrom db operation review := by
  cases operation with
  | createReview school draft caller =>
    refine Achieves.map ((achieves_createReview h school draft caller).weaken ?_)
    rintro _ after ⟨reviewed, row, _, _, hadds, _, hleaves, _⟩
    refine reviews_of_leaves h hleaves ?_ ?_
    · rintro _ _ ⟨⟩ _
      exact .written hadds
    · rintro _ _ _ ⟨⟩
  | updateReview id change caller =>
    refine Achieves.map ((achieves_updateReview h id change caller).weaken ?_)
    rintro _ after ⟨old, row, hold, hamends, hleaves, _⟩
    refine reviews_of_leaves h hleaves ?_ ?_
    · rintro _ _ ⟨⟩
    · rintro _ _ _ ⟨⟩ _
      exact .changed hold hamends
  | _ =>
    -- no other operation may write a review
    refine (effect_of_perform h _).weaken ?_
    rintro _ after ⟨effect, hmay, _, _, hleaves⟩
    refine reviews_of_leaves h hleaves ?_ ?_
    · cases hmay <;> rintro m row ⟨⟩ hname <;> exact absurd hname (by decide)
    · cases hmay <;> rintro m old row ⟨⟩ hname <;> exact absurd hname (by decide)

/-- Where each review after a step comes from. -/
theorem review_of_step (h : state.database.Sound) (request : Surroundings × Operation)
    (hreview : review ∈ (step state request).database.rows "reviews") :
    ReviewFrom state.database request.2 review := by
  rcases step_of_achieves (reviews_of_perform h request.2) with hsame | ⟨_, hdone⟩
  · exact .kept (hsame ▸ hreview)
  · exact hdone review hreview

end Operation
end SchoolCatalog
