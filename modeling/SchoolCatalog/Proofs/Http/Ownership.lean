import SchoolCatalog.Proofs.Http.Identity
import SchoolCatalog.Proofs.Service.Related

/-!
# What belongs to others

Whoever is not an admin writes only among the schools, courses and reviews of his own. So a request that
does not come from an admin leaves all accounts as they are, and all schools, courses and reviews that
neither are the caller's own nor belong to a school that is. Only averages may change: those of the school
to which the course or review belongs that the request is about.

Results:
1. `Within.spares_user`, `Within.spares_school`, `Within.spares_dependent`: what a write among certain
   rows spares.
2. `within_of_granted`, `concerns_of_due`: the write of an operation, and the averages that it makes due.
3. `others_of_request`: what a request that does not come from an admin leaves as it is.
-/

namespace SchoolCatalog

open Store Store.Database Service

/-! ## Writes among certain rows -/

namespace Effect

variable {db : Database} {effect : Effect} {mine : Row → Prop} {row : Row}

/-- Whether a write amends and removes no account, and no row but certain ones. -/
def Within (db : Database) (mine : Row → Prop) : Effect → Prop
  | nothing => True
  | add _ _ => True
  | amend l old _ => l ∈ Layout.standard ∧ l.name ≠ "users" ∧ old ∈ db.rows l.name ∧ mine old
  | remove l old => l ∈ Layout.standard ∧ l.name ≠ "users" ∧ old ∈ db.rows l.name ∧ mine old

theorem Within.spares_user (hw : effect.Within db mine) (row : Row) : effect.Spares db .users row := by
  cases effect with
  | nothing => trivial
  | add l new => trivial
  | amend l old new =>
    rintro rfl
    exact absurd rfl hw.2.1
  | remove l old => exact fun hgoes => hw.2.1 hgoes.user.1

theorem Within.spares_school (h : db.Sound) (hw : effect.Within db mine)
    (hrow : row ∈ db.rows "schools") (hothers : ¬ mine row) : effect.Spares db .schools row := by
  cases effect with
  | nothing => trivial
  | add l new => trivial
  | amend l old new =>
    rintro rfl hid
    obtain ⟨hl, _, hold, hmine⟩ := hw
    exact hothers (h.eq_of_id hl hrow hold hid ▸ hmine)
  | remove l old =>
    intro hgoes
    obtain ⟨hl, hne, hold, hmine⟩ := hw
    rcases hgoes.school with ⟨hname, hid⟩ | ⟨hname, _⟩
    · exact hothers (h.eq_of_id hl (hname ▸ hrow) hold hid ▸ hmine)
    · exact hne hname

theorem Within.spares_dependent (h : db.Sound) (hw : effect.Within db mine) {a : Aggregate}
    (hrow : row ∈ db.rows a.layout.name) (hothers : ¬ mine row)
    (hschool : ∀ school ∈ db.rows "schools", row.cell "school_id" = .int school.id → ¬ mine school) :
    effect.Spares db a.layout row := by
  cases effect with
  | nothing => trivial
  | add l new => trivial
  | amend l old new =>
    rintro rfl hid
    obtain ⟨hl, _, hold, hmine⟩ := hw
    exact hothers (h.eq_of_id hl hrow hold hid ▸ hmine)
  | remove l old =>
    intro hgoes
    obtain ⟨hl, hne, hold, hmine⟩ := hw
    have hparents : a.layout.parents = [("school_id", "schools"), ("user_id", "users")] := by
      cases a <;> rfl
    rcases hgoes.dependent hparents with ⟨hname, hid⟩ | ⟨school, hgoes, hcell⟩ | ⟨hname, _⟩
    · exact hothers (h.eq_of_id hl (hname ▸ hrow) hold hid ▸ hmine)
    · -- a course or review goes with the school that it names
      have hmem := hgoes.mem.2
      rcases hgoes.school with ⟨hname, hid⟩ | ⟨hname, _⟩
      · have hsame := h.eq_of_id hl (hname ▸ hmem) hold hid
        exact hschool school hmem hcell (hsame ▸ hmine)
      · exact hne hname
    · exact hne hname

end Effect

/-! ## What is left to others -/

namespace Effect

variable {around : Surroundings} {db mid after : Database} {effect : Effect} {mine : Row → Prop}

theorem Makes.users (h : db.Sound) (hw : effect.Within db mine) (hm : effect.Makes db mid) :
    mid.rows "users" = db.rows "users" ∨
      ∃ new, effect = .add .users new ∧ mid.rows "users" = db.rows "users" ++ [new] := by
  have husers := Kept.users.mem_standard
  cases hm with
  | nothing => exact .inl rfl
  | @add _ l new k _ _ =>
    by_cases hname : "users" = l.name
    · obtain rfl := eq_users k.mem_standard hname
      exact .inr ⟨new, rfl, (rows_grown h husers new husers).trans (if_pos rfl)⟩
    · exact .inl ((rows_grown h k.mem_standard new husers).trans (if_neg hname))
  | @amend _ l old new k _ _ _ =>
    exact .inl ((rows_amended h k.mem_standard new husers).trans (if_neg (Ne.symm hw.2.1)))
  | @remove _ l old _ k _ hdeleted =>
    obtain ⟨gone, rfl, hgone⟩ := hdeleted
    refine .inl ((rows_pruned h.standing _ husers).trans (List.filter_eq_self.2 fun user huser => ?_))
    rw [Bool.not_eq_true', Bool.eq_false_iff]
    exact fun hgoes => hw.spares_user user ((hgone _ husers user huser).1 hgoes)

/-- Accounts stay as they are, but that one may be added. -/
theorem Leaves.users (h : db.Sound) (hw : effect.Within db mine)
    (hl : effect.Leaves around db after) :
    after.rows "users" = db.rows "users" ∨
      ∃ new, effect = .add .users new ∧ after.rows "users" = db.rows "users" ++ [new] := by
  obtain ⟨mid, hm, hrows⟩ := hl.rows_eq
  have husers : after.rows "users" = mid.rows "users" :=
    hrows .users Kept.users.mem_standard (by decide)
  rw [husers]
  exact hm.users h hw

end Effect

/-! ## Averages that an operation is about -/

/-- The average of a school that an operation is about: it adds, changes or deletes a course or review of
that school. -/
inductive Operation.Concerns (db : Database) : Operation → Aggregate → Int → Prop
  | createCourse {school : Datum} {draft : CourseDraft} {caller : Caller} {s : Int} :
      school.Denotes s → Concerns db (createCourse school draft caller) .cost s
  | updateCourse {id : Datum} {change : CourseChange} {caller : Caller} {s : Int} {row : Row} :
      row ∈ Aggregate.cost.dependentsOf db s → id.Denotes row.id →
      Concerns db (updateCourse id change caller) .cost s
  | deleteCourse {id : Datum} {caller : Caller} {s : Int} {row : Row} :
      row ∈ Aggregate.cost.dependentsOf db s → id.Denotes row.id →
      Concerns db (deleteCourse id caller) .cost s
  | createReview {school : Datum} {draft : ReviewDraft} {caller : Caller} {s : Int} :
      school.Denotes s → Concerns db (createReview school draft caller) .rating s
  | updateReview {id : Datum} {change : ReviewChange} {caller : Caller} {s : Int} {row : Row} :
      row ∈ Aggregate.rating.dependentsOf db s → id.Denotes row.id →
      Concerns db (updateReview id change caller) .rating s
  | deleteReview {id : Datum} {caller : Caller} {s : Int} {row : Row} :
      row ∈ Aggregate.rating.dependentsOf db s → id.Denotes row.id →
      Concerns db (deleteReview id caller) .rating s

namespace Effect

variable {db : Database} {a b : Aggregate} {t : Int} {row old : Row}

/-- What is due after a change of a course or review is the average of its school. -/
theorem due_amend (h : db.Sound) (hold : old ∈ db.rows a.layout.name)
    (hplain : (amend a.layout old row).Plain) (hdue : (amend a.layout old row).due db b t) :
    b = a ∧ old ∈ a.dependentsOf db t := by
  obtain ⟨s, hs, _⟩ := key_of_record h a.kept_dependents a.isKey_school hold
  have hstays := hplain.2.1 a rfl
  obtain ⟨rfl, rfl⟩ := (dueFor_iff (hstays.trans hs)).1 hdue
  exact ⟨rfl, List.mem_filter.2 ⟨hold, decide_eq_true hs⟩⟩

/-- What is due after a course or review was deleted is the average of its school. -/
theorem due_remove (h : db.Sound) (hold : old ∈ db.rows a.layout.name)
    (hdue : (remove a.layout old).due db b t) : b = a ∧ old ∈ a.dependentsOf db t := by
  obtain ⟨s, hs, _⟩ := key_of_record h a.kept_dependents a.isKey_school hold
  obtain ⟨rfl, rfl⟩ := (dueForDeletion_iff h hold hs).1 hdue
  exact ⟨rfl, List.mem_filter.2 ⟨hold, decide_eq_true hs⟩⟩

/-- An operation that deletes no account makes only averages due that it is about. -/
theorem concerns_of_due {mine : Row → Prop} {operation : Operation} {effect : Effect} (h : db.Sound)
    (hmay : operation.May db effect) (hplain : effect.Plain) (hw : effect.Within db mine)
    (hdue : effect.due db b t) : operation.Concerns db b t := by
  cases hmay with
  | nothing => exact hdue.elim
  | createSchool _ _ => exact absurd hdue.1 b.layout_ne_schools
  | updateSchool _ _ => exact absurd hdue.1 b.layout_ne_schools
  | deleteSchool _ => exact absurd hdue not_dueForDeletion_school
  | uploadPhoto _ _ => exact absurd hdue.1 b.layout_ne_schools
  | createCourse hallows hcell =>
    obtain ⟨rfl, rfl⟩ := (dueFor_iff (a := .cost) hcell).1 hdue
    exact .createCourse hallows.denotes
  | updateCourse hallows =>
    obtain ⟨rfl, hmem⟩ := @due_amend db .cost b t _ _ h hallows.mem hplain hdue
    exact .updateCourse hmem hallows.denotes
  | deleteCourse hallows =>
    obtain ⟨rfl, hmem⟩ := @due_remove db .cost b t _ h hallows.mem hdue
    exact .deleteCourse hmem hallows.denotes
  | createReview _ hs hcell =>
    obtain ⟨rfl, rfl⟩ := (dueFor_iff (a := .rating) hcell).1 hdue
    exact .createReview hs
  | updateReview hallows =>
    obtain ⟨rfl, hmem⟩ := @due_amend db .rating b t _ _ h hallows.mem hplain hdue
    exact .updateReview hmem hallows.denotes
  | deleteReview hallows =>
    obtain ⟨rfl, hmem⟩ := @due_remove db .rating b t _ h hallows.mem hdue
    exact .deleteReview hmem hallows.denotes
  | register _ => exact absurd hdue.1 (users_plain b)
  | createAccount _ => exact absurd hdue.1 (users_plain b)
  | updateAccount _ => exact absurd hdue.1 (users_plain b)
  | deleteAccount _ => exact absurd rfl hw.2.1

end Effect

/-! ## Requests -/

namespace Http

variable {around : Surroundings} {db : Database} {authorization : Option Bytes}

/-- A school, course or review belongs to the account that an authorization identifies. -/
def Owned (around : Surroundings) (db : Database) (authorization : Option Bytes) (row : Row) : Prop :=
  ∃ user, Identifies around db authorization user ∧ row.cell "user_id" = .int user.id

/-- What may be changed by a caller who is not an admin is his own. -/
theorem owned_of_allows (h : db.Sound) {c : Collection} {l : Layout} (k : Kept c l)
    (hkey : IsKey c l "user_id") (hnot : ¬ FromAdmin around db authorization) {caller : Caller}
    (hcaller : ∃ user, Identifies around db authorization user ∧ caller = user.caller) {id : Datum}
    {old : Row} (hallows : Allows db c l caller id old) : Owned around db authorization old := by
  obtain ⟨user, huser, rfl⟩ := hcaller
  obtain ⟨owner, hcell, hfield, _⟩ := key_of_record h k hkey hallows.mem
  have hmay := hallows.mayChange
  rw [Caller.mayChange, hfield, Bool.or_eq_true] at hmay
  rcases hmay with hsame | hadmin
  · have hid : owner = user.id := of_decide_eq_true ((same_int owner user.id).symm.trans hsame)
    exact ⟨user, huser, hid ▸ hcell⟩
  · exact absurd ⟨user, huser, (isAdmin_caller user).1 hadmin⟩ hnot

/-- Whoever is not an admin writes only among his own rows. -/
theorem within_of_granted (h : db.Sound) (hnot : ¬ FromAdmin around db authorization)
    {endpoint : Endpoint} {operation : Operation} {effect : Effect}
    (hgranted : Granted around db authorization endpoint operation)
    (hmay : operation.May db effect) : effect.Within db (Owned around db authorization) := by
  have hschools {caller : Caller} :=
    @owned_of_allows around db authorization h _ _ .schools isKey_owner hnot caller
  have hdependents (a : Aggregate) {caller : Caller} :=
    @owned_of_allows around db authorization h _ _ a.kept_dependents (isKey_user a) hnot caller
  cases hmay with
  | nothing => trivial
  | createSchool _ _ => trivial
  | updateSchool hallows _ =>
    exact ⟨Kept.schools.mem_standard, by decide, hallows.mem, hschools hgranted hallows⟩
  | deleteSchool hallows =>
    exact ⟨Kept.schools.mem_standard, by decide, hallows.mem, hschools hgranted hallows⟩
  | uploadPhoto hallows _ =>
    exact ⟨Kept.schools.mem_standard, by decide, hallows.mem, hschools hgranted hallows⟩
  | createCourse _ _ => trivial
  | updateCourse hallows =>
    exact ⟨Kept.courses.mem_standard, by decide, hallows.mem, hdependents .cost hgranted hallows⟩
  | deleteCourse hallows =>
    exact ⟨Kept.courses.mem_standard, by decide, hallows.mem, hdependents .cost hgranted hallows⟩
  | createReview _ _ _ => trivial
  | updateReview hallows =>
    exact ⟨Kept.reviews.mem_standard, by decide, hallows.mem, hdependents .rating hgranted hallows⟩
  | deleteReview hallows =>
    exact ⟨Kept.reviews.mem_standard, by decide, hallows.mem, hdependents .rating hgranted hallows⟩
  | register _ => trivial
  | createAccount _ => trivial
  | updateAccount _ => exact absurd hgranted.2 hnot
  | deleteAccount _ => exact absurd hgranted.2 hnot

/-! ## Results -/

/-- The average of a school that a request is about. -/
def Request.Concerns (around : Surroundings) (db : Database) (request : Request) (a : Aggregate)
    (s : Int) : Prop :=
  ∃ endpoint operation, request.Asks around db endpoint operation ∧ operation.Concerns db a s

/-- A request that does not come from an admin writes among the caller's own rows, adds an account only
by registering, and makes only averages due that it is about. -/
theorem effect_of_request {state : State} (h : state.database.Sound) (request : Request)
    (hnot : ¬ FromAdmin around state.database request.authorization) : ∃ effect : Effect,
      effect.Leaves around state.database (run (answer request) around state).2.database ∧
      effect.Within state.database (Owned around state.database request.authorization) ∧
      (∀ new, effect = .add .users new → ∃ parameters, request.LeadsTo .register parameters) ∧
      ∀ a s, effect.due state.database a s → request.Concerns around state.database a s := by
  rcases @step_of_request around _ h request with hsame | ⟨endpoint, operation, hasks, hstep⟩
  · rw [hsame]
    exact ⟨.nothing, Effect.leaves_nothing h, trivial, nofun, fun _ _ hdue => hdue.elim⟩
  · rw [hstep]
    obtain ⟨effect, hmay, hplain, _, hleaves⟩ := Operation.effect_of_step h (around, operation)
    have hw := within_of_granted h hnot hasks.granted hmay
    refine ⟨effect, hleaves, hw, ?_, fun a s hdue =>
      ⟨endpoint, operation, hasks, Effect.concerns_of_due h hmay hplain hw hdue⟩⟩
    rintro new rfl
    have hgranted := hasks.granted
    rcases hmay.writesAccount rfl with ⟨draft, rfl, _⟩ | ⟨draft, rfl, _⟩
    · obtain ⟨parameters, _, _, hleads, _⟩ := hasks
      exact ⟨parameters, hgranted.1 ▸ hleads⟩
    · exact absurd hgranted.2 hnot

/-- A request after any run of requests, made without a token that identifies an account or with the
token of one who is not an admin, leaves all accounts as they are but that it may register one. It leaves
every course, review and school as it is that neither is the caller's own nor belongs to a school that
is, but for the averages of the school that it is about. -/
theorem others_of_request (requests : List (Surroundings × Request)) (around : Surroundings)
    (request : Request)
    (hnot : ∀ user, Identifies around (serveAll .fresh requests).database request.authorization user →
      user.cell "role" ≠ .text "admin") :
    let before := (serveAll .fresh requests).database
    let after := (serveAll .fresh (requests ++ [(around, request)])).database
    let own := Owned around before request.authorization
    (after.rows "users" = before.rows "users" ∨
      ∃ parameters new, request.LeadsTo .register parameters ∧
        after.rows "users" = before.rows "users" ++ [new]) ∧
    (∀ a : Aggregate, ∀ row ∈ before.rows a.layout.name, ¬ own row →
      (∀ school ∈ before.rows "schools", row.cell "school_id" = .int school.id → ¬ own school) →
      row ∈ after.rows a.layout.name) ∧
    ∀ school ∈ before.rows "schools", ¬ own school →
      ∃ now ∈ after.rows "schools", now.id = school.id ∧
        ∀ col ∈ Layout.schools.columns, now.cell col.name = school.cell col.name ∨
          ∃ a : Aggregate, request.Concerns around before a school.id ∧ col.name = a.targetField := by
  intro before after own
  have h : before.Sound := sound_serveAll sound_fresh requests
  have hafter : after = (run (answer request) around (serveAll .fresh requests)).2.database :=
    congrArg State.database (serveAll_concat _ _ _ _)
  obtain ⟨effect, hleaves, hw, hregister, hdue⟩ := effect_of_request h request
    fun ⟨user, huser, hadmin⟩ => hnot user huser hadmin
  rw [← hafter] at hleaves
  refine ⟨?_, ?_, ?_⟩
  · refine (hleaves.users h hw).imp_right fun ⟨new, hadd, hrows⟩ => ?_
    obtain ⟨parameters, hleads⟩ := hregister new hadd
    exact ⟨parameters, new, hleads, hrows⟩
  · intro a row hrow hothers hschool
    exact hleaves.keeps_row h a.kept_dependents.mem_standard a.layout_ne_schools
      (hw.spares_dependent h hrow hothers hschool) hrow
  · intro school hschool hothers
    obtain ⟨now, hnow, hid, hcells⟩ :=
      hleaves.keeps_school h (hw.spares_school h hschool hothers) hschool
    refine ⟨now, hnow, hid, fun col hcol => (hcells col hcol).imp_right ?_⟩
    rintro ⟨a, hdueA, hname⟩
    exact ⟨a, hdue a _ hdueA, hname⟩

/-- Ada registers as the first, and Bob as a publisher. -/
def gathering : List (Surroundings × Request) :=
  [(Operation.calm, joining), (Operation.calm, posting "/api/v1/auth/register"
    "\x7b\"name\":\"Bob\",\"email\":\"bob@example.com\",\"password\":\"secret2\",\"role\":\"publisher\"\x7d")]

/-- Someone asks to delete Ada. -/
def intruding (authorization : Option Bytes) : Request where
  method := "DELETE"
  path := "/api/v1/users/1"
  authorization := authorization

theorem account_of_intruded : ∃ token,
    let before := (serveAll .fresh gathering).database
    let after := (serveAll .fresh (gathering ++ [(Operation.calm, intruding (bearing token))])).database
    (∃ user, Identifies Operation.calm before (bearing token) user) ∧
      (∀ user, Identifies Operation.calm before (bearing token) user → user.cell "role" ≠ .text "admin") ∧
      ∃ ada ∈ before.rows "users", ada.id = 1 ∧ ada ∈ after.rows "users" := by
  have hgiven : (Token.create Operation.calm.settings Operation.calm.now (claimsFor 2) none).toOption.isSome := by
    decide +kernel
  obtain ⟨token, htoken⟩ := Option.isSome_iff_exists.1 hgiven
  have hissued : Issued Operation.calm 2 token := ⟨toOption_eq_some.1 htoken⟩
  refine ⟨token, ?_⟩
  intro before after
  have hnamed : named? Operation.calm (bearing token) = some 2 :=
    named?_of_issued hissued ⟨by decide, by decide⟩ (bearer?_bearing hissued.made) rfl lasts_calm
  have hrows : (∃ ada ∈ before.rows "users", ada.id = 1) ∧ (∃ bob ∈ before.rows "users", bob.id = 2) ∧
      ∀ user ∈ before.rows "users", user.id = 2 → user.cell "role" ≠ .text "admin" := by
    decide +kernel
  obtain ⟨⟨ada, hada, hfirst⟩, ⟨bob, hbob, hsecond⟩, hroles⟩ := hrows
  have hnot (user : Row) (huser : Identifies Operation.calm before (bearing token) user) :
      user.cell "role" ≠ .text "admin" :=
    hroles user huser.mem (Option.some.inj (huser.named.symm.trans hnamed))
  obtain ⟨husers, _, _⟩ :=
    others_of_request gathering Operation.calm (intruding (bearing token)) hnot
  refine ⟨⟨bob, hbob, hsecond ▸ hnamed⟩, hnot, ada, hada, hfirst, ?_⟩
  rcases husers with hsame | ⟨_, new, _, hsame⟩
  · exact hsame.symm ▸ hada
  · exact hsame.symm ▸ List.mem_append_left _ hada

end Http
end SchoolCatalog
