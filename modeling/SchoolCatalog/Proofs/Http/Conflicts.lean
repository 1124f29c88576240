import SchoolCatalog.Proofs.Http.Exhaustion
import SchoolCatalog.Proofs.Service.Files

/-!
# Conflicts in runs of requests

Whatever requests there were before, an operation that stores what a form has accepted, for a caller that
is there and a record that the caller may change, reports a conflict just if another record has the name,
the email address, or the school and author, and nothing else stands in its way. No operation fails in a
way that its caller cannot mend, unless a table has run out of identities.

Results:
* `conflict_of_run`: conflicts, and what no two records share;
* `mendable_of_run`: failures.
-/

namespace SchoolCatalog

open Store Store.Database

namespace Operation

open Service

variable {around : Surroundings} {db : Database} {operation : Operation} {result : Except Failure Datum}

/-- What a verdict says of an operation that is not barred. -/
theorem conflict_iff_of_verdict (h : Verdict (operation.hurdles db) (ReportsConflict operation) result) :
    ((∃ conflict, result = .error (.conflict conflict)) ↔
      operation.Contested db ∧ ¬ operation.Hindered db) ∧
    ((∃ answer, result = .ok answer) ↔ ¬ operation.Contested db ∧ ¬ operation.Hindered db) ∧
    ∀ conflict, result = .error (.conflict conflict) → operation.conflict? = some conflict := by
  cases h with
  | garbled hgarbled => simp [Hindered, show Garbled operation.payload from hgarbled]
  | full _ hfull => simp [Hindered, show ∃ name, _ ∧ db.IsFull name from hfull]
  | contested hclear hroom hcontested hrefused =>
    obtain ⟨conflict, hconflict, rfl⟩ := hrefused
    have hfree : ¬ operation.Hindered db := not_or.2 ⟨hclear, hroom⟩
    simp [hfree, hconflict, show operation.Contested db from hcontested]
  | free hclear hroom hfree =>
    have hunhindered : ¬ operation.Hindered db := not_or.2 ⟨hclear, hroom⟩
    simp [hunhindered, show ¬ operation.Contested db from hfree]

end Operation

namespace Http

open Service

/-! ## A school that is reviewed -/

/-- Ada reviews the school that she has published. -/
def reviewing : Request := asking "POST" "/api/v1/schools/1/reviews"
  "\x7b\"title\":\"Good\",\"text\":\"Well taught\",\"rating\":8\x7d"

/-- Ada registers, publishes a school and reviews it. -/
def visiting : List (Surroundings × Request) := stepping.take 2 ++ [(Operation.calm, reviewing)]

/-- The operations that Ada asks for. -/
def visits : List (Surroundings × Operation) :=
  steps.take 2 ++ [(Operation.calm,
    .createReview (.int 1) ⟨"Good", .proper "Well taught", 8⟩ Operation.admin)]

theorem serveAll_visiting : serveAll .fresh visiting = Operation.runAll .fresh visits :=
  serveAll_asking [("title", .text "Good"), ("text", .text "Well taught"), ("rating", .int 8)]
    serveAll_publishing isAdmin_published (rfl : Endpoint.createReview.guard = _) (by decide)
    (by decide +kernel : reviewing.LeadsTo .createReview [("school_id", "1")])
    (by with_unfolding_all rfl) rfl

/-- What there is after that. -/
theorem rows_of_visiting : let db := (serveAll .fresh visiting).database
    ((∃ user ∈ db.rows "users", user.id = 1) ∧ ∃ school ∈ db.rows "schools", school.id = 1) ∧
      (∃ review ∈ db.rows "reviews", review.cell "school_id" = .int 1 ∧ review.cell "user_id" = .int 1) ∧
        db.greatestHandedOut "reviews" = 1 ∧ db.greatestHandedOut "courses" = 0 := by
  rw [serveAll_visiting]
  decide +kernel

/-- Ada reviews the school once more. -/
def reviewAgain (draft : ReviewDraft) : Operation := .createReview (.int 1) draft Operation.admin

theorem ready_reviewAgain (draft : ReviewDraft) :
    (reviewAgain draft).Ready (serveAll .fresh visiting).database := by
  obtain ⟨⟨⟨user, huser, hid⟩, school, hschool, hs⟩, _⟩ := rows_of_visiting
  have hone : (Datum.int 1).Denotes 1 := Datum.denotes_int (by decide)
  exact ⟨⟨user, huser, hid ▸ hone⟩, school, hschool, hs ▸ hone⟩

theorem contested_reviewAgain (draft : ReviewDraft) :
    (reviewAgain draft).Contested (serveAll .fresh visiting).database := by
  obtain ⟨_, ⟨review, hreview, hs, hu⟩, _⟩ := rows_of_visiting
  exact ⟨review, hreview, ⟨1, hs, Datum.denotes_int (by decide)⟩, 1, hu, Datum.denotes_int (by decide)⟩

theorem formed_broken : (reviewAgain ⟨"Again", .broken [0xD800], 9⟩).Formed :=
  ⟨[("title", .text "Again"), ("text", .broken [0xD800]), ("rating", .int 9)], rfl⟩

theorem unencodable_broken : ∃ fault, (run (reviewAgain ⟨"Again", .broken [0xD800], 9⟩).perform still
    (serveAll .fresh visiting)).1 = .error (.unencodable fault) := by
  have hverdict := meets_perform (sound_serveAll sound_fresh visiting) ordinary_still
    (ready_reviewAgain _) formed_broken not_false _ rfl
  have hgarbled : Garbled (reviewAgain ⟨"Again", .broken [0xD800], 9⟩).payload :=
    ⟨("text", .broken [0xD800]), by simp [reviewAgain, Operation.payload, ReviewDraft.record,
      Datum.ofWording], _, rfl⟩
  generalize (run (reviewAgain ⟨"Again", .broken [0xD800], 9⟩).perform still
    (serveAll .fresh visiting)).1 = result at hverdict
  cases hverdict with
  | garbled => exact ⟨_, rfl⟩
  | full hclear => exact absurd hgarbled hclear
  | contested hclear => exact absurd hgarbled hclear
  | free hclear => exact absurd hgarbled hclear

/-! ## Conflicts -/

/-- In every state that a run of requests leads to, an operation that is ready and not barred, with a
payload that its form accepts, reports a conflict just if it is contested, and answers if not; only a
broken text in its payload, or a table without an identity for a new row, hinders it. When it fails
nothing changes, and when it answers a new record is one row more. No two reviews are of one school and
author, no two schools have one name, and no two accounts have one email address. -/
theorem conflict_of_run (requests : List (Surroundings × Request)) {around : Surroundings}
    (hordinary : around.Ordinary) :
    let now := serveAll .fresh requests
    let db := now.database
    (∀ operation : Operation, operation.Ready db → operation.Formed → ¬ operation.Barred db →
      let outcome := run operation.perform around now
      ((∃ conflict, outcome.1 = .error (.conflict conflict)) ↔
        operation.Contested db ∧ ¬ operation.Hindered db) ∧
      ((∃ answer, outcome.1 = .ok answer) ↔ ¬ operation.Contested db ∧ ¬ operation.Hindered db) ∧
      (∀ conflict, outcome.1 = .error (.conflict conflict) → operation.conflict? = some conflict) ∧
      (∀ failure, outcome.1 = .error failure →
        outcome.2.database = db ∧ outcome.2.uploads = now.uploads) ∧
      ∀ answer name, outcome.1 = .ok answer → operation.adds? = some name →
        db.Gains outcome.2.database name) ∧
    (∀ review ∈ db.rows "reviews", ∀ other ∈ db.rows "reviews",
      other.cell "school_id" = review.cell "school_id" → other.cell "user_id" = review.cell "user_id" →
        other = review) ∧
    (∀ school ∈ db.rows "schools", ∀ other ∈ db.rows "schools",
      other.cell "name" = school.cell "name" → other = school) ∧
    ∀ user ∈ db.rows "users", ∀ other ∈ db.rows "users",
      other.cell "email" = user.cell "email" → other = user := by
  intro now db
  have hsound : db.Sound := sound_serveAll sound_fresh requests
  refine ⟨fun operation hready hformed hallowed => ?_, ?_, ?_, ?_⟩
  · intro outcome
    have hverdict : Verdict (operation.hurdles db) (ReportsConflict operation) outcome.1 :=
      meets_perform hsound hordinary hready hformed hallowed now rfl
    obtain ⟨hconflict, hanswer, hreported⟩ := Operation.conflict_iff_of_verdict hverdict
    refine ⟨hconflict, hanswer, hreported, fun failure hfailure => ⟨?_, ?_⟩, ?_⟩
    · exact Achieves.of_failed (effect_of_perform hsound operation) rfl hfailure
    · refine Operation.spares_perform operation ?_ around now
      rintro _ _ _ _ _ rfl
      exact hready
    · intro answer name hok hadds
      exact (achieves_gains hsound hadds).of_run rfl hok
  · intro review hreview other hother hschool huser
    refine hsound.eq_of_unique Kept.reviews.mem_standard (by decide : ["school_id", "user_id"] ∈ _)
      hreview hother ?_
    simp only [List.forall_mem_cons]
    exact ⟨hschool, huser, nofun⟩
  · intro school hschool other hother hname
    exact hsound.eq_of_unique Kept.schools.mem_standard (by decide : ["name"] ∈ _) hschool hother
      (List.forall_mem_singleton.2 hname)
  · intro user huser other hother hemail
    exact hsound.eq_of_unique Kept.users.mem_standard (by decide : ["email"] ∈ _) huser hother
      (List.forall_mem_singleton.2 hemail)

theorem formed_second : (reviewAgain ⟨"Again", .proper "Still good", 9⟩).Formed :=
  ⟨[("title", .text "Again"), ("text", .text "Still good"), ("rating", .int 9)], rfl⟩

theorem unhindered_second : ¬ (reviewAgain ⟨"Again", .proper "Still good", 9⟩).Hindered
    (serveAll .fresh visiting).database := by
  rintro (⟨entry, hentry, points, hbroken⟩ | ⟨_, ⟨⟩, hfull⟩)
  · simp only [reviewAgain, Operation.payload, ReviewDraft.record, List.mem_cons, List.not_mem_nil,
      or_false] at hentry
    rcases hentry with rfl | rfl | rfl <;> cases hbroken
  · exact absurd (rows_of_visiting.2.2.1.symm.trans hfull) (by decide)

/-- Ada's second review of a school is reported, and changes nothing. -/
theorem conflict_of_second_review :
    let now := serveAll .fresh visiting
    let again := reviewAgain ⟨"Again", .proper "Still good", 9⟩
    let outcome := run again.perform still now
    still.Ordinary ∧ again.Ready now.database ∧ again.Formed ∧ ¬ again.Barred now.database ∧
      again.Contested now.database ∧ ¬ again.Hindered now.database ∧
      outcome.1 = .error (.conflict (.review (.int 1) (.int 1))) ∧
      outcome.2.database = now.database := by
  have hready := ready_reviewAgain ⟨"Again", .proper "Still good", 9⟩
  have hcontested := contested_reviewAgain ⟨"Again", .proper "Still good", 9⟩
  obtain ⟨hall, _⟩ := conflict_of_run visiting ordinary_still
  obtain ⟨hconflict, _, hreported, hunchanged, _⟩ := hall _ hready formed_second not_false
  obtain ⟨conflict, hresult⟩ := hconflict.2 ⟨hcontested, unhindered_second⟩
  obtain rfl := Option.some.inj (hreported conflict hresult)
  exact ⟨ordinary_still, hready, formed_second, not_false, hcontested, unhindered_second, hresult,
    (hunchanged _ hresult).1⟩

/-- A text with a half of a pair in it hinders what would be a conflict, and a table that is full hinders
what would be none. -/
theorem hindered_of_visiting :
    (let now := serveAll .fresh visiting
      let again := reviewAgain ⟨"Again", .broken [0xD800], 9⟩
      again.Ready now.database ∧ again.Formed ∧ ¬ again.Barred now.database ∧
        again.Contested now.database ∧
        ¬ ∃ conflict, (run again.perform still now).1 = .error (.conflict conflict)) ∧
    let now := serveAll .fresh (filling capacity)
    let more := publish (toString capacity)
    more.Ready now.database ∧ more.Formed ∧ ¬ more.Barred now.database ∧
      ¬ more.Contested now.database ∧ ¬ ∃ answer, (run more.perform still now).1 = .ok answer := by
  constructor
  · have hunreported : ¬ ∃ conflict, (run (reviewAgain ⟨"Again", .broken [0xD800], 9⟩).perform still
        (serveAll .fresh visiting)).1 = .error (.conflict conflict) := by
      obtain ⟨fault, hfault⟩ := unencodable_broken
      rw [hfault]
      rintro ⟨_, ⟨⟩⟩
    exact ⟨ready_reviewAgain _, formed_broken, not_false, contested_reviewAgain _, hunreported⟩
  · have hunanswered : ¬ ∃ answer, (run (publish (toString capacity)).perform still
        (serveAll .fresh (filling capacity))).1 = .ok answer := by
      rw [unavailable_of_filled]
      rintro ⟨_, ⟨⟩⟩
    exact ⟨filled_capacity.ready _, formed_capacity, allowed_publish _ _, filled_capacity.uncontested,
      hunanswered⟩

/-! ## Failures -/

/-- In every state that a run of requests leads to, an operation that is ready, with a payload that its
form accepts, answers or is refused for what its caller can mend, unless it creates a record for which
the table has no identity left. -/
theorem mendable_of_run (requests : List (Surroundings × Request)) {around : Surroundings}
    (hordinary : around.Ordinary) {operation : Operation}
    (hready : operation.Ready (serveAll .fresh requests).database) (hformed : operation.Formed) :
    let now := serveAll .fresh requests
    let result := (run operation.perform around now).1
    (∃ answer, result = .ok answer) ∨
    (∃ failure, result = .error failure ∧ operation.Refuses now.database failure ∧
      failure.status.1 = 400) ∨
    result = .error .unavailable ∧ ∃ name, operation.adds? = some name ∧ now.database.IsFull name := by
  intro now result
  have hsound : now.database.Sound := sound_serveAll sound_fresh requests
  rcases ends_perform hsound hordinary hready hformed now rfl with
    hok | ⟨failure, hfailure, hrefuses⟩ | hfull
  · exact .inl hok
  · exact .inr (.inl ⟨failure, hfailure, hrefuses, hrefuses.status⟩)
  · exact .inr (.inr hfull)

/-- Ada adds a course of infinite tuition. -/
def endless : Operation :=
  .createCourse (.int 1) ⟨"Web", "Full stack", "8", .infinite false, false⟩ Operation.admin

theorem formed_endless : endless.Formed :=
  ⟨[("title", .text "Web"), ("description", .text "Full stack"), ("weeks", .text "8"),
    ("tuition", .real (.infinite false))], rfl⟩

theorem ready_endless : endless.Ready (serveAll .fresh visiting).database := by
  obtain ⟨⟨⟨user, huser, hid⟩, school, hschool, hs⟩, _⟩ := rows_of_visiting
  have hone : (Datum.int 1).Denotes 1 := Datum.denotes_int (by decide)
  exact ⟨⟨user, huser, hid ▸ hone⟩, school, hschool, hs ▸ hone, Bool.or_true _⟩

/-- A course of infinite tuition is stored. -/
theorem answered_of_endless :
    let now := serveAll .fresh visiting
    still.Ordinary ∧ endless.Ready now.database ∧ endless.Formed ∧
      ∃ answer, (run endless.perform still now).1 = .ok answer := by
  have hstored : ∃ answer, (run endless.perform still (serveAll .fresh visiting)).1 = .ok answer := by
    rcases mendable_of_run visiting ordinary_still ready_endless formed_endless with
      hok | ⟨_, _, hrefuses, _⟩ | ⟨_, _, ⟨⟩, hfull⟩
    · exact hok
    · cases hrefuses with
      | contested hcontested => exact hcontested.elim
      | barred hbarred => exact hbarred.elim
      | garbled hgarbled =>
        obtain ⟨entry, hentry, points, hbroken⟩ := hgarbled
        simp only [endless, Operation.payload, CourseDraft.record, List.mem_cons, List.not_mem_nil,
          or_false] at hentry
        rcases hentry with rfl | rfl | rfl | rfl | rfl <;> cases hbroken
    · exact absurd (rows_of_visiting.2.2.2.symm.trans hfull) (by decide)
  exact ⟨ordinary_still, ready_endless, formed_endless, hstored⟩

/-- A broken text is refused by no rule of the catalog, and with a table that is full the server is at
fault. -/
theorem unavailable_of_filling :
    (let now := serveAll .fresh visiting
      let again := reviewAgain ⟨"Again", .broken [0xD800], 9⟩
      still.Ordinary ∧ again.Ready now.database ∧ again.Formed ∧
        ∃ fault, (run again.perform still now).1 = .error (.unencodable fault)) ∧
    let now := serveAll .fresh (filling capacity)
    let more := publish (toString capacity)
    still.Ordinary ∧ more.Ready now.database ∧ more.Formed ∧
      (run more.perform still now).1 = .error .unavailable ∧
      Failure.unavailable.status = (500, "Server Error") :=
  ⟨⟨ordinary_still, ready_reviewAgain _, formed_broken, unencodable_broken⟩,
    ordinary_still, filled_capacity.ready _, formed_capacity, unavailable_of_filled, rfl⟩

end Http
end SchoolCatalog
