import SchoolCatalog.Proofs.Service.Answers
import SchoolCatalog.Proofs.Service.Runs

/-!
# Deleting users

What is there after a user is deleted. The user's schools go, and with them their courses and reviews,
whoever wrote these, and so do the courses and reviews that the user wrote for other schools. Of all
that stays nothing changes but the averages of the schools that lost a course or review; and nothing
that stays names anything that went.

Results:
1. `rows_deleted`, `goes_dependent_iff`: what is left of each table.
2. `succeeds_deleteAccount`: deleting a user that is there succeeds.
3. `loses_iff`: the averages that are due are those of the schools that lost something and stay.
4. `outlives_of_recomputed`: what becomes of a school that stays.
5. `departed_of_run`: the tables after a user was deleted.
-/

namespace SchoolCatalog

open Store Store.Database

namespace Store.Database

variable {db mid after : Database} {a : Aggregate} {u : Int} {user row : Row}

/-! ## What goes with a user -/

/-- A course or review that a user wrote, or that belongs to a school of the user's. -/
def OfUser (db : Database) (u : Int) (row : Row) : Prop :=
  row.cell "user_id" = .int u ∨ ∃ school ∈ db.rows "schools",
    school.cell "user_id" = .int u ∧ row.cell "school_id" = .int school.id

instance (db : Database) (u : Int) (row : Row) : Decidable (db.OfUser u row) :=
  inferInstanceAs (Decidable (_ ∨ _))

theorem goes_user_iff (hrow : row ∈ db.rows "users") :
    Goes db "users" u .users row ↔ row.id = u :=
  ⟨fun hgoes => hgoes.user.2, fun hid => .deleted Kept.users.mem_standard rfl hrow hid⟩

theorem goes_school_iff (huser : user ∈ db.rows "users") (hrow : row ∈ db.rows "schools") :
    Goes db "users" user.id .schools row ↔ row.cell "user_id" = .int user.id := by
  constructor
  · intro hgoes
    rcases hgoes.school with ⟨hname, _⟩ | ⟨_, howner⟩
    · exact absurd hname (by decide)
    · exact howner
  · intro howner
    exact .names Kept.schools.mem_standard (List.mem_singleton_self _) hrow
      (.deleted Kept.users.mem_standard rfl huser rfl) howner

theorem goes_dependent_iff (huser : user ∈ db.rows "users") (hrow : row ∈ db.rows a.layout.name) :
    Goes db "users" user.id a.layout row ↔ db.OfUser user.id row := by
  have hl := a.kept_dependents.mem_standard
  have hschoolLink : ("school_id", Layout.schools.name) ∈ a.layout.parents := by
    rw [a.parents_dependents]
    exact List.mem_cons_self ..
  have huserLink : ("user_id", Layout.users.name) ∈ a.layout.parents := by
    rw [a.parents_dependents]
    exact List.mem_cons_of_mem _ (List.mem_singleton_self _)
  constructor
  · intro hgoes
    rcases hgoes.dependent a.parents_dependents with ⟨hname, _⟩ | ⟨school, hschool, hcell⟩ | ⟨_, hcell⟩
    · exact absurd hname (by cases a <;> decide)
    · exact .inr ⟨school, hschool.mem.2, (goes_school_iff huser hschool.mem.2).1 hschool, hcell⟩
    · exact .inl hcell
  · rintro (hcell | ⟨school, hschool, howner, hcell⟩)
    · exact .names hl huserLink hrow (.deleted Kept.users.mem_standard rfl huser rfl) hcell
    · exact .names hl hschoolLink hrow ((goes_school_iff huser hschool).2 howner) hcell

/-- What is left of a table, once it is known which rows of it go. -/
theorem rows_deleted {name : String} {id : Int} {m : Layout} (h : db.Sound)
    (hdeleted : Deleted db name id mid) (hm : m ∈ Layout.standard) (gone : Row → Prop)
    [DecidablePred gone] (hgone : ∀ row ∈ db.rows m.name, Goes db name id m row ↔ gone row) :
    mid.rows m.name = (db.rows m.name).filter fun row => ¬ gone row := by
  obtain ⟨taken, rfl, htaken⟩ := hdeleted
  rw [rows_pruned h.standing _ hm]
  refine List.filter_congr fun row hrow => ?_
  have hiff := (htaken m hm row hrow).trans (hgone row hrow)
  by_cases hrowGone : gone row
  · rw [hiff.2 hrowGone, decide_eq_false (not_not.2 hrowGone)]
    rfl
  · rw [Bool.eq_false_of_not_eq_true (mt hiff.1 hrowGone), decide_eq_true hrowGone]
    rfl

/-- A row that is there is deleted. -/
theorem delete_of_denotes {c : Collection} {l : Layout} (h : db.Sound) (k : Kept c l) {id : Datum}
    {old : Row} (hold : old ∈ db.rows l.name) (hid : id.Denotes old.id) :
    db.delete c id = .ok (cascade db.tables.length db l.name [old.id], true) := by
  obtain ⟨key, hkey, hadapt⟩ := hid
  have hfind := (find?_hasId h k.mem_standard hkey hold).2 ⟨key, hkey, hadapt⟩
  have hcheck : Statement.check { table := c.name } = .ok () := by cases k <;> rfl
  refine bind_eq_ok.2 ⟨(), hcheck, bind_eq_ok.2 ⟨_, h.standing.table_eq k,
    bind_eq_ok.2 ⟨key, hkey, ?_⟩⟩⟩
  dsimp only
  rw [hfind]
  rfl

end Store.Database

namespace Service

variable {around : Surroundings} {db : Database} {user : Row}

/-! ## Success -/

/-- What a user owns can be looked up. -/
theorem gives_owned {c : Collection} {l : Layout} (h : db.Sound) (k : Kept c l)
    (hkey : IsKey c l "user_id") {id : Datum} {i : Int} (hid : id.Denotes i)
    (projection : Option (List String)) :
    Gives around db (({} : Store).find c { conditions := [⟨"user_id", .eq, id⟩], projection })
      fun records => db.found c { conditions := [⟨"user_id", .eq, id⟩], projection } = .ok records := by
  obtain ⟨v, hv, _⟩ := hid
  have hfound := found_by_key h k hkey id projection bindWindow_none
  rw [hv] at hfound
  rintro state rfl
  rw [run_find]
  exact ⟨rfl, _, hfound, hfound⟩

theorem succeeds_delete {c : Collection} {l : Layout} (h : db.Sound) (k : Kept c l) {id : Datum}
    {old : Row} (hold : old ∈ db.rows l.name) (hid : id.Denotes old.id) :
    Ensures around db (({} : Store).delete c id) fun result after =>
      (∃ found, result = .ok found) ∧ after.Sound := by
  rintro state rfl
  rw [run_delete, delete_of_denotes h k hold hid]
  exact ⟨⟨_, rfl⟩, (deleted_cascade h k hold).sound h⟩

/-- Deleting a user that is there succeeds. -/
theorem succeeds_deleteAccount (h : db.Sound) (huser : user ∈ db.rows "users") {id : Datum}
    (hid : id.Denotes user.id) : Succeeds around db (Accounts.delete id) := by
  unfold Accounts.delete
  refine (gives_find h .users huser hid _).bind fun _ _ => ?_
  refine (gives_owned h .schools isKey_owner hid _).bind fun schools hschools => ?_
  refine (gives_owned h .courses (isKey_user .cost) hid _).bind fun courses hcourses => ?_
  refine (gives_owned h .reviews (isKey_user .rating) hid _).bind fun reviews hreviews => ?_
  refine (succeeds_delete h .users huser hid).bind ?_ ?_
  · rintro _ mid ⟨_, hsound⟩
    refine Ensures.info_bind ?_
    exact (ensures_recomputeBoth hsound (fun s hs => proper_of_others h .cost hcourses hs)
      (fun s hs => proper_of_others h .rating hreviews hs)).weaken fun _ _ hafter => hafter.1
  · rintro failure mid ⟨⟨_, hfound⟩, _⟩
    exact nomatch hfound

end Service

namespace Store.Database

variable {around : Surroundings} {db mid after : Database} {a : Aggregate} {s : Int} {user row : Row}

/-! ## What becomes of the schools that stay -/

/-- A row holds nothing under a name that it does not have. -/
theorem Row.cell_of_absent {name : String} (h : name ∉ row.cells.map (·.1)) :
    row.cell name = .null := by
  have hnone : row.cells.lookup name = none := by
    rw [List.lookup_eq_none_iff]
    intro entry hentry
    exact bne_iff_ne.2 fun hname => h (hname ▸ List.mem_map_of_mem hentry)
  rw [Row.cell, hnone]
  rfl

/-- A school loses a course or review. -/
def Loses (db after : Database) (a : Aggregate) (s : Int) : Prop :=
  ∃ row ∈ a.dependentsOf db s, row ∉ a.dependentsOf after s

/-- What becomes of a school that stays: nothing changes but an average of which a course or review is
lost; the rating is then the mean of the ratings that remain, and stays what it was if none remains. -/
structure Outlives (db after : Database) (before now : Row) : Prop where
  id : now.id = before.id
  names : now.cells.map (·.1) = before.cells.map (·.1)
  cells : ∀ name, (∀ a : Aggregate, name = a.targetField → ¬ db.Loses after a before.id) →
    now.cell name = before.cell name
  rated : db.Loses after .rating before.id → Aggregate.rating.dependentsOf after before.id ≠ [] →
    ∃ mean, Aggregate.meanOf (Aggregate.rating.valuesOf after before.id) = .ok (some mean) ∧
      now.cell "average_rating" = .real mean
  unrated : Aggregate.rating.dependentsOf after before.id = [] →
    now.cell "average_rating" = before.cell "average_rating"

/-- The tables after a user was deleted, by those before: the user is gone, with the user's schools and
with the courses and reviews that the user wrote or that belonged to these; the other schools outlive the
user, all else that stays is as it was, and the courses and reviews that stay name schools and users that
stay. -/
structure Departed (db after : Database) (user : Row) : Prop where
  users : after.rows "users" = (db.rows "users").filter fun row => ¬ row.id = user.id
  dependents : ∀ a : Aggregate, after.rows a.layout.name =
    (db.rows a.layout.name).filter fun row => ¬ db.OfUser user.id row
  schools : List.Forall₂ (db.Outlives after)
    ((db.rows "schools").filter fun school => ¬ school.cell "user_id" = .int user.id)
    (after.rows "schools")
  named : ∀ a : Aggregate, ∀ row ∈ after.rows a.layout.name,
    (∃ school ∈ after.rows "schools", row.cell "school_id" = .int school.id) ∧
      ∃ author ∈ after.rows "users", row.cell "user_id" = .int author.id

/-- The averages that are due after a user was deleted, of schools that stay, are those of which
something was lost. -/
theorem loses_iff (h : db.Sound) (huser : user ∈ db.rows "users")
    (hdeleted : Deleted db "users" user.id mid)
    (hothers : ∀ l ∈ Layout.standard, l.name ≠ "schools" → after.rows l.name = mid.rows l.name)
    {school : Row} (hschool : school ∈ mid.rows "schools") :
    db.Loses after a school.id ↔ dueForDeletion db "users" user.id a school.id := by
  have hl := a.kept_dependents.mem_standard
  obtain ⟨hthere, hstays⟩ := (hdeleted.mem_iff h Kept.schools.mem_standard).1 hschool
  have hafter {row : Row} (hrow : row ∈ a.dependentsOf db school.id) :
      row ∉ a.dependentsOf after school.id ↔ db.OfUser user.id row := by
    obtain ⟨hmem, hbelongs⟩ := List.mem_filter.1 hrow
    rw [Aggregate.dependentsOf, hothers _ hl a.layout_ne_schools, List.mem_filter,
      hdeleted.mem_iff h hl, goes_dependent_iff huser hmem]
    exact ⟨fun hnot => not_not.1 fun hkept => hnot ⟨⟨hmem, hkept⟩, hbelongs⟩,
      fun hgone hkept => hkept.1.2 hgone⟩
  refine exists_congr fun row => and_congr_right fun hrow => (hafter hrow).trans ?_
  constructor
  · rintro (hcell | ⟨other, hother, howner, hcell⟩)
    · exact .inr ⟨rfl, hcell⟩
    · -- the school itself would be the user's, but it stays
      have hbelongs := of_decide_eq_true (List.mem_filter.1 hrow).2
      obtain rfl := h.eq_of_id Kept.schools.mem_standard hthere hother
        (Cell.int.inj (hbelongs.symm.trans hcell))
      exact absurd ((goes_school_iff huser hthere).2 howner) hstays
  · rintro (⟨hname, _⟩ | ⟨_, hcell⟩)
    · exact absurd hname (by cases a <;> decide)
    · exact .inl hcell

/-- What becomes of a school that stays when a user is deleted and the averages that are due are
recomputed. -/
theorem outlives_of_recomputed (h : db.Sound) (hwhole : after.WholeRatings)
    (working : around.losesUpdates = false) (huser : user ∈ db.rows "users")
    (hdeleted : Deleted db "users" user.id mid)
    (hrecomputed : Recomputed around mid after (dueForDeletion db "users" user.id))
    {before now : Row} (hbefore : before ∈ mid.rows "schools") (hnow : now ∈ after.rows "schools")
    (hid : now.id = before.id) : db.Outlives after before now := by
  have hl := Kept.schools.mem_standard
  have haveraged := hrecomputed.averaged
  have hrefreshed := hrecomputed.refreshed working
  have hloses (a : Aggregate) := loses_iff (a := a) h huser hdeleted haveraged.others hbefore
  have hfits := (hdeleted.sound h).fits _ hl before hbefore
  have hfits' := haveraged.sound.fits _ hl now hnow
  have hnames := hfits'.names.trans hfits.names.symm
  have hcells : ∀ name, (∀ a : Aggregate, name = a.targetField → ¬ db.Loses after a before.id) →
      now.cell name = before.cell name := by
    intro name hnone
    obtain ⟨same, hsame, hsameId, hcolumns⟩ := haveraged.schools before hbefore
    obtain rfl := haveraged.sound.eq_of_id hl hsame hnow (hsameId.trans hid.symm)
    by_cases hname : name ∈ Layout.schools.columns.map (·.name)
    · obtain ⟨col, hcol, rfl⟩ := List.mem_map.1 hname
      rcases hcolumns col hcol with hcell | ⟨a, hdue, htarget, _⟩
      · exact hcell
      · exact absurd ((hloses a).2 hdue) (hnone a htarget)
    · rw [Row.cell_of_absent (hfits'.names.symm ▸ hname), Row.cell_of_absent (hfits.names.symm ▸ hname)]
  -- an average that is due is refreshed from the values that remain
  have hrating (hlost : db.Loses after .rating before.id) : now.cell "average_rating" =
      (Aggregate.rating.kept? (Aggregate.rating.valuesOf after before.id)).getD
        (before.cell "average_rating") := by
    obtain ⟨same, hsame, hsameId, hrated⟩ := hrefreshed.schools now hnow
    obtain rfl := (hdeleted.sound h).eq_of_id hl hsame hbefore (hsameId.trans hid)
    rw [hrefreshed.valuesOf_eq, hsameId]
    rcases hrated .rating with hcell | ⟨hnot, _⟩
    · exact hcell
    · exact absurd (hid ▸ (hloses .rating).1 hlost) hnot
  refine ⟨hid, hnames, hcells, fun hlost hremain => ?_, fun hnone => ?_⟩
  · obtain ⟨mean, hmean, hkept⟩ := Aggregate.rating_kept_of_whole haveraged.sound hwhole hremain
    refine ⟨mean, hmean, ?_⟩
    rw [hrating hlost, hkept]
    rfl
  · by_cases hlost : db.Loses after .rating before.id
    · rw [hrating hlost, Operation.valuesOf_nil hnone]
      rfl
    · refine hcells "average_rating" fun a htarget hloses => ?_
      obtain rfl := Aggregate.targetField_injective (a := .rating) htarget
      exact hlost hloses

/-- Deleting a user and recomputing the averages that are due makes all of this. -/
theorem departed_of_recomputed (h : db.Sound) (hwhole : after.WholeRatings)
    (working : around.losesUpdates = false) (huser : user ∈ db.rows "users")
    (hdeleted : Deleted db "users" user.id mid)
    (hrecomputed : Recomputed around mid after (dueForDeletion db "users" user.id)) :
    db.Departed after user := by
  have haveraged := hrecomputed.averaged
  refine ⟨?_, fun a => ?_, ?_, fun a row hrow => ?_⟩
  · refine (haveraged.others _ Kept.users.mem_standard (by decide)).trans ?_
    exact rows_deleted h hdeleted Kept.users.mem_standard _ fun row hrow => goes_user_iff hrow
  · rw [haveraged.others _ a.kept_dependents.mem_standard a.layout_ne_schools]
    exact rows_deleted h hdeleted a.kept_dependents.mem_standard _ fun row hrow =>
      goes_dependent_iff huser hrow
  · have hschools : mid.rows "schools" =
        (db.rows "schools").filter fun school => ¬ school.cell "user_id" = .int user.id :=
      rows_deleted h hdeleted Kept.schools.mem_standard _ fun row hrow => goes_school_iff huser hrow
    rw [← hschools]
    refine (forall₂_of_map_eq haveraged.ids.symm).imp ?_
    rintro before now ⟨hbefore, hnow, hid⟩
    exact outlives_of_recomputed h hwhole working huser hdeleted hrecomputed hbefore hnow hid.symm
  · have hnamed := haveraged.sound.named _ a.kept_dependents.mem_standard
    rw [a.parents_dependents] at hnamed
    exact ⟨hnamed _ (List.mem_cons_self ..) row hrow,
      hnamed _ (List.mem_cons_of_mem _ (List.mem_singleton_self _)) row hrow⟩

end Store.Database

namespace Operation

open Service

/-- Ratings are whole numbers in every run, whether updates get lost or not. -/
theorem whole_run (requests : List (Surroundings × Operation)) :
    (runAll .fresh requests).database.WholeRatings := by
  induction requests using List.reverseRecOn with
  | nil => exact current_fresh.whole
  | append_singleton requests request ih =>
    have hsound : (runAll .fresh requests).database.Sound := sound_run sound_fresh requests
    obtain ⟨effect, _, hplain, _, hleaves⟩ := effect_of_step hsound request
    rw [runAll_concat]
    intro review hreview
    rcases hleaves.mem_row hsound Kept.reviews.mem_standard (by decide) hreview with
      hthere | rfl | ⟨old, hold, _, rfl⟩
    · exact ih review hthere
    · exact hplain.1 rfl
    · rcases hplain.1 rfl with hwhole | hsame
      · exact hwhole
      · exact hsame ▸ ih old hold

/-! ## Results -/

/-- After every run, deleting a user that is there succeeds if no update gets lost, and leaves the tables
as they were without that user and all that goes with the user. -/
theorem departed_of_run (requests : List (Surroundings × Operation)) (around : Surroundings)
    (working : around.losesUpdates = false) {user : Row}
    (huser : user ∈ (runAll .fresh requests).database.rows "users") :
    let before := runAll .fresh requests
    let outcome := Service.run (deleteAccount (.int user.id)).perform around before
    outcome.1 = .ok .null ∧ before.database.Departed outcome.2.database user := by
  intro before outcome
  have hsound : before.database.Sound := sound_run sound_fresh requests
  have hid := Datum.denotes_int (hsound.isIdentity Kept.users.mem_standard huser).proper
  have hsucceeds : Succeeds around before.database (Accounts.delete (.int user.id)) :=
    succeeds_deleteAccount hsound huser hid
  obtain ⟨done, hdone⟩ := hsucceeds before rfl
  have hachieved := @achieves_deleteAccount around before.database hsound (.int user.id) before rfl
  have hwhole := whole_run (requests ++ [(around, deleteAccount (.int user.id))])
  rw [runAll_concat] at hwhole
  rw [hdone] at hachieved
  obtain ⟨old, hold, hdenotes, mid, hmakes, hrecomputed⟩ := hachieved
  obtain rfl := hsound.eq_of_id Kept.users.mem_standard hold huser (hdenotes.unique hid)
  have hrun : outcome = (.ok .null, (Service.run (Accounts.delete (.int old.id)) around before).2) := by
    show Service.run ((fun _ => Datum.null) <$> Accounts.delete (.int old.id)) around before = _
    rw [run_map, hdone]
    rfl
  have hafter : outcome.2.database =
      (Service.run (Accounts.delete (.int old.id)) around before).2.database := by rw [hrun]
  rw [← hafter] at hrecomputed
  cases hmakes with
  | remove _ _ hdeleted =>
    exact ⟨congrArg Prod.fst hrun,
      departed_of_recomputed hsound hwhole working huser hdeleted hrecomputed⟩

/-- Another user reviews the school of `opening`, and publishes a school that the owner of the first one
reviews. -/
def neighbours : List (Surroundings × Operation) :=
  opening ++
    [(calm, .createAccount ⟨"Bob", "bob@example.com", "secret2", "publisher"⟩),
      (calm, .createReview (.int 1) ⟨"Fair", .proper "Too fast", 5⟩ ⟨.int 2, .text "publisher"⟩),
      (calm, .createSchool ⟨"Northside", "A school", none, none, none, .proper "2 Main St"⟩
        ⟨.int 2, .text "publisher"⟩),
      (calm, .createReview (.int 2) ⟨"New", .proper "Promising", 9⟩ admin)]

/-- The other user takes the second school along, and with it the review of its neighbour, and leaves
the first school without a review. -/
theorem departed_of_neighbours :
    ∃ user ∈ (runAll .fresh neighbours).database.rows "users", user.id = 2 ∧
      let before := runAll .fresh neighbours
      let outcome := Service.run (deleteAccount (.int user.id)).perform calm before
      outcome.1 = .ok .null ∧ before.database.Departed outcome.2.database user := by
  have huser : ∃ user ∈ (runAll .fresh neighbours).database.rows "users", user.id = 2 := by
    decide +kernel
  obtain ⟨user, hmem, hid⟩ := huser
  exact ⟨user, hmem, hid, departed_of_run neighbours calm rfl hmem⟩

end Operation
end SchoolCatalog
