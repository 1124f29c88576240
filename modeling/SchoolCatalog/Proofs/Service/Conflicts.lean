import SchoolCatalog.Proofs.Form.Reading
import SchoolCatalog.Proofs.Service.Hurdles

/-!
# When operations conflict

An operation that stores what a form has accepted, for a caller that is there and a record that the
caller may change, comes out as its hurdles decide. Whichever of them stands in its way, the database
stays as it was; if none does, a new record is one row more in its table, and no other row comes or goes.
One publisher's second school is refused before.

Results:
1. `meets_perform`, `barred_perform`, `ends_perform`: how an operation comes out.
2. `achieves_gains`: what a new record adds.
-/

namespace SchoolCatalog

open Store Store.Database

namespace Store

/-- A database with one row more: a table gains a row at its end, and in no other table one comes or
goes. -/
structure Database.Gains (db after : Database) (name : String) : Prop where
  own : ∃ row, after.rows name = db.rows name ++ [row]
  others : ∀ l ∈ Layout.standard, l.name ≠ name →
    (after.rows l.name).map (·.id) = (db.rows l.name).map (·.id)

namespace Database

variable {db after : Database} {l : Layout}

theorem gains_grown (h : db.Sound) (hl : l ∈ Layout.standard) (row : Row) :
    db.Gains (db.grown l row) l.name where
  own := ⟨row, (rows_grown h hl row hl).trans (if_pos rfl)⟩
  others m hm hne := by rw [rows_grown h hl row hm, if_neg hne]

/-- Writing averages lets no school come or go. -/
theorem Gains.averaged {mid : Database} {due : Aggregate → Int → Prop} (h : db.Gains mid l.name)
    (hl : l ∈ Layout.standard) (hne : l.name ≠ "schools") (haveraged : mid.Averaged after due) :
    db.Gains after l.name where
  own := h.own.imp fun _ hrow => (haveraged.others l hl hne).trans hrow
  others m hm hother := by
    refine Eq.trans ?_ (h.others m hm hother)
    by_cases hschools : m.name = "schools"
    · rw [hschools]
      exact haveraged.ids
    · rw [haveraged.others m hm hschools]

end Database
end Store

/-- A row that an operation adds is one more, whatever averages it makes due. -/
theorem Effect.Leaves.gains {around : Surroundings} {db after : Database} {l : Layout} {row : Row}
    (h : db.Sound) (hleaves : (Effect.add l row).Leaves around db after) (hne : l.name ≠ "schools") :
    db.Gains after l.name := by
  obtain ⟨mid, hmakes, hafter⟩ := hleaves
  cases hmakes with
  | add k _ _ => exact (gains_grown h k.mem_standard row).averaged k.mem_standard hne hafter.averaged

namespace Operation

open Service

/-! ## What an operation needs -/

/-- The values of the payload. -/
def payload : Operation → Record
  | createSchool draft _ => draft.record
  | updateSchool _ change _ => change.record
  | createCourse _ draft _ => draft.record
  | updateCourse _ change _ => change.record
  | createReview _ draft _ => draft.record
  | updateReview _ change _ => change.record
  | register draft | createAccount draft => draft.record
  | updateAccount _ change => given change.fields
  | _ => []

/-- The payload is one that its form accepts. -/
def Formed : Operation → Prop
  | createSchool draft _ => ∃ entries, SchoolDraft.read entries = .ok draft
  | updateSchool _ change _ => ∃ entries, SchoolChange.read entries = .ok change
  | createCourse _ draft _ => ∃ entries, CourseDraft.read entries = .ok draft
  | updateCourse _ change _ => ∃ entries, CourseChange.read entries = .ok change
  | createReview _ draft _ => ∃ entries, ReviewDraft.read entries = .ok draft
  | updateReview _ change _ => ∃ entries, ReviewChange.read entries = .ok change
  | register draft => ∃ entries, AccountDraft.read openRoles entries = .ok draft
  | createAccount draft => ∃ entries, AccountDraft.read allRoles entries = .ok draft
  | updateAccount _ change => ∃ entries, AccountChange.read entries = .ok change
  | _ => False

/-- The operation creates or updates a record; its caller is there, and so is the record that it is
about, which the caller may change where that is asked. -/
def Ready (db : Database) : Operation → Prop
  | createSchool _ caller => db.HasUser caller.id
  | updateSchool id _ caller => ∃ old, Allows db .schools .schools caller id old
  | createCourse school _ caller =>
    db.HasUser caller.id ∧ ∃ owner, Allows db .schools .schools caller school owner
  | updateCourse id _ caller => ∃ old, Allows db .courses .courses caller id old
  | createReview school _ caller =>
    db.HasUser caller.id ∧ ∃ reviewed ∈ db.rows "schools", school.Denotes reviewed.id
  | updateReview id _ caller => ∃ old, Allows db .reviews .reviews caller id old
  | register _ | createAccount _ => True
  | updateAccount id _ => db.HasUser id
  | _ => False

/-- The table to which an operation adds a row. -/
def adds? : Operation → Option String
  | createSchool _ _ => some "schools"
  | createCourse _ _ _ => some "courses"
  | createReview _ _ _ => some "reviews"
  | register _ | createAccount _ => some "users"
  | _ => none

/-! ## What stands in its way -/

/-- Someone who is no admin and owns a school publishes another one. -/
def Barred (db : Database) : Operation → Prop
  | createSchool _ caller => caller.isAdmin = false ∧ ¬ OwnsNone db caller.id
  | _ => False

/-- Another record has what no two records may have: a school the name, an account the email address in
lower case, or a review the school and the author. -/
def Contested (db : Database) : Operation → Prop
  | createSchool draft _ => ∃ school ∈ db.rows "schools", school.cell "name" = .text draft.name
  | updateSchool id change _ => ∃ name, change.name = some name ∧
      ∃ school ∈ db.rows "schools", ¬ id.Denotes school.id ∧ school.cell "name" = .text name
  | createReview school _ caller => ∃ review ∈ db.rows "reviews",
      (∃ s, review.cell "school_id" = .int s ∧ school.Denotes s) ∧
        ∃ u, review.cell "user_id" = .int u ∧ caller.id.Denotes u
  | register draft | createAccount draft =>
    ∃ user ∈ db.rows "users", user.cell "email" = .text (Text.lower draft.email)
  | updateAccount id change => ∃ email, change.email = some email ∧
      ∃ user ∈ db.rows "users", ¬ id.Denotes user.id ∧ user.cell "email" = .text (Text.lower email)
  | _ => False

/-- What is reported of an operation that is contested. -/
def conflict? : Operation → Option Conflict
  | createSchool draft _ => some (.schoolName (.text draft.name))
  | updateSchool _ change _ => some (.schoolName (.ofOption (change.name.map .text)))
  | createReview school _ caller => some (.review caller.id school)
  | register draft | createAccount draft => some (.email (.text draft.email))
  | updateAccount _ change =>
    some (.email (.ofOption (change.email.map fun email => .text (Text.lower email))))
  | _ => none

/-- The operation cannot be carried out, whatever other records there are: there is a broken text in its
payload, or its table has no identity for a new row. -/
def Hindered (db : Database) (operation : Operation) : Prop :=
  Garbled operation.payload ∨ ∃ name, operation.adds? = some name ∧ db.IsFull name

/-- How an operation is refused for what its caller can mend. -/
inductive Refuses (db : Database) (operation : Operation) : Failure → Prop
  | contested {conflict : Conflict} : operation.Contested db → operation.conflict? = some conflict →
      Refuses db operation (.conflict conflict)
  | barred {caller : Datum} : operation.Barred db →
      Refuses db operation (.refused (.alreadyPublished caller))
  | garbled {fault : UnpairedHalf} : Garbled operation.payload →
      Refuses db operation (.unencodable fault)

theorem Refuses.status {db : Database} {operation : Operation} {failure : Failure}
    (h : operation.Refuses db failure) : failure.status.1 = 400 := by
  cases h <;> rfl

/-- All that may stand in the way of an operation that is not barred. -/
def hurdles (db : Database) (operation : Operation) : Hurdles where
  garbled := Garbled operation.payload
  full := ∃ name, operation.adds? = some name ∧ db.IsFull name
  contested := operation.Contested db

end Operation

namespace Service

variable {around : Surroundings} {db : Database} {operation : Operation}

/-! ## How it comes out -/

/-- How a refused operation that is contested is reported. -/
def ReportsConflict (operation : Operation) (failure : Failure) : Prop :=
  ∃ conflict, operation.conflict? = some conflict ∧ failure = .conflict conflict

theorem Meets.reports {operation : Operation} {hurdles : Hurdles} {x : Service Record}
    {conflict : Conflict} (hx : Meets around db x hurdles (· = .conflict conflict))
    (hconflict : operation.conflict? = some conflict) :
    Meets around db (Datum.dict <$> x) hurdles (ReportsConflict operation) := by
  refine Meets.map (Ensures.weaken hx fun result _ hverdict => ?_)
  cases hverdict with
  | garbled hgarbled => exact .garbled hgarbled
  | full hclear hfull => exact .full hclear hfull
  | contested hclear hroom hcontested hrefused =>
    exact .contested hclear hroom hcontested ⟨conflict, hconflict, hrefused⟩
  | free hclear hroom hfree => exact .free hclear hroom hfree

/-- An operation that is ready and not barred comes out as its hurdles decide. -/
theorem meets_perform (h : db.Sound) (hordinary : around.Ordinary) (hready : operation.Ready db)
    (hformed : operation.Formed) (hallowed : ¬ operation.Barred db) :
    Meets around db operation.perform (operation.hurdles db) (ReportsConflict operation) := by
  have hadds {name : String} : (∃ n, some name = some n ∧ db.IsFull n) ↔ db.IsFull name := by simp
  have hnone : (∃ n, (none : Option String) = some n ∧ db.IsFull n) ↔ False := by simp
  cases operation with
  | createSchool draft caller =>
    have howns : caller.isAdmin = true ∨ OwnsNone db caller.id := by
      by_cases hadmin : caller.isAdmin = true
      · exact .inl hadmin
      · exact .inr (not_not.1 fun howns => hallowed ⟨Bool.not_eq_true _ ▸ hadmin, howns⟩)
    exact ((meets_createSchool h hordinary draft hready howns).reports rfl).congr .rfl .rfl hadds.symm
  | updateSchool id change caller =>
    obtain ⟨old, hold⟩ := hready
    exact ((meets_updateSchool h hordinary change hold).reports rfl).congr .rfl .rfl hnone.symm
  | createCourse school draft caller =>
    obtain ⟨hcaller, owner, howner⟩ := hready
    obtain ⟨entries, hentries⟩ := hformed
    exact (meets_createCourse h hordinary (Form.tuition_courseDraft hentries) howner hcaller).map.congr
      .rfl .rfl hadds.symm
  | updateCourse id change caller =>
    obtain ⟨old, hold⟩ := hready
    obtain ⟨entries, hentries⟩ := hformed
    exact (meets_updateCourse h hordinary (fun _ => Form.tuition_courseChange hentries) hold).map.congr
      .rfl .rfl hnone.symm
  | createReview school draft caller =>
    obtain ⟨hcaller, reviewed, hreviewed, hs⟩ := hready
    obtain ⟨entries, hentries⟩ := hformed
    exact ((meets_createReview h hordinary (Form.rating_reviewDraft hentries) hreviewed hs
      hcaller).reports rfl).congr .rfl .rfl hadds.symm
  | updateReview id change caller =>
    obtain ⟨old, hold⟩ := hready
    obtain ⟨entries, hentries⟩ := hformed
    exact (meets_updateReview h hordinary (fun _ => Form.rating_reviewChange hentries) hold).map.congr
      .rfl .rfl hnone.symm
  | register draft =>
    obtain ⟨entries, hentries⟩ := hformed
    have hrole := Form.role_of_read (by decide) hentries
    exact ((meets_register h hordinary hrole).reports rfl).congr .rfl .rfl hadds.symm
  | createAccount draft =>
    obtain ⟨entries, hentries⟩ := hformed
    have hrole := Form.role_of_read (by decide) hentries
    exact ((meets_addAccount h hordinary draft hrole).reports rfl).congr .rfl .rfl hadds.symm
  | updateAccount id change =>
    obtain ⟨old, hold, hid⟩ := hready
    obtain ⟨entries, hentries⟩ := hformed
    exact ((meets_updateAccount h hordinary hold hid fun _ => Form.role_accountChange hentries).reports
      rfl).congr .rfl .rfl hnone.symm
  | _ => exact hready.elim

/-- An operation that is barred is refused. -/
theorem barred_perform (h : db.Sound) (hready : operation.Ready db) (hbarred : operation.Barred db) :
    Ensures around db operation.perform fun result _ =>
      ∃ caller, result = .error (.refused (.alreadyPublished caller)) := by
  cases operation with
  | createSchool draft caller =>
    refine Ensures.map ((barred_createSchool h draft hready hbarred.1 hbarred.2).weaken ?_)
    rintro _ _ rfl
    exact ⟨caller.id, rfl⟩
  | _ => exact hbarred.elim

/-- An operation that is ready answers, or is refused for what its caller can mend, or its table has no
identity for a new row. -/
theorem ends_perform (h : db.Sound) (hordinary : around.Ordinary) (hready : operation.Ready db)
    (hformed : operation.Formed) : Ensures around db operation.perform fun result _ =>
      (∃ answer, result = .ok answer) ∨
      (∃ failure, result = .error failure ∧ operation.Refuses db failure) ∨
      result = .error .unavailable ∧ ∃ name, operation.adds? = some name ∧ db.IsFull name := by
  by_cases hbarred : operation.Barred db
  · refine (barred_perform h hready hbarred).weaken ?_
    rintro _ _ ⟨caller, rfl⟩
    exact .inr (.inl ⟨_, rfl, .barred hbarred⟩)
  · refine (meets_perform h hordinary hready hformed hbarred).weaken fun result _ hverdict => ?_
    cases hverdict with
    | garbled hgarbled => exact .inr (.inl ⟨_, rfl, .garbled hgarbled⟩)
    | full _ hfull => exact .inr (.inr ⟨rfl, hfull⟩)
    | contested _ _ hcontested hrefused =>
      obtain ⟨conflict, hconflict, rfl⟩ := hrefused
      exact .inr (.inl ⟨_, rfl, .contested hcontested hconflict⟩)
    | free => exact .inl ⟨_, rfl⟩

/-! ## What a new record adds -/

/-- An operation that creates a record adds one row to its table, and nothing comes or goes elsewhere. -/
theorem achieves_gains (h : db.Sound) {name : String} (hadds : operation.adds? = some name) :
    Achieves around db operation.perform fun _ after => db.Gains after name := by
  cases operation with
  | createSchool draft caller =>
    obtain rfl := Option.some.inj hadds
    refine Achieves.map ((achieves_createSchool h draft caller).weaken ?_)
    rintro _ _ ⟨_, _, row, _, _, rfl, _⟩
    exact gains_grown h Kept.schools.mem_standard row
  | createCourse school draft caller =>
    obtain rfl := Option.some.inj hadds
    refine Achieves.map ((achieves_createCourse h school draft caller).weaken ?_)
    rintro _ _ ⟨_, row, _, _, _, hleaves, _⟩
    exact hleaves.gains h (by decide)
  | createReview school draft caller =>
    obtain rfl := Option.some.inj hadds
    refine Achieves.map ((achieves_createReview h school draft caller).weaken ?_)
    rintro _ _ ⟨_, row, _, _, _, _, hleaves, _⟩
    exact hleaves.gains h (by decide)
  | register draft =>
    obtain rfl := Option.some.inj hadds
    refine Achieves.map ((achieves_register h draft).weaken ?_)
    rintro _ _ ⟨_, row, _, _, rfl, _⟩
    exact gains_grown h Kept.users.mem_standard row
  | createAccount draft =>
    obtain rfl := Option.some.inj hadds
    refine Achieves.map ((achieves_addAccount h draft draft.role).weaken ?_)
    rintro _ _ ⟨_, row, _, _, rfl, _⟩
    exact gains_grown h Kept.users.mem_standard row
  | _ => exact nomatch hadds

end Service
end SchoolCatalog
