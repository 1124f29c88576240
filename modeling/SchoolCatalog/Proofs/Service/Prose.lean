import SchoolCatalog.Proofs.Form.Reading
import SchoolCatalog.Proofs.Service.Locations

/-!
# Texts of schools and reviews

The drafts of schools and reviews come with tidy texts, and what is published is stored as the draft gives
it. A change is not read in that way: the texts that it gives are stored as they are. So a text of a school
or review is tidy, unless a change of that very school or review gave it word for word.

Results:
1. `tidy_of_adds`, `given_of_amends`: the texts that a write stores.
2. `worded_of_step`: what a step leaves of the texts.
3. `worded_of_run`: after every run an untidy text is one that a change gave.
-/

namespace SchoolCatalog

open Store Store.Database

open Service Form

/-- The texts of schools and reviews, by the names of the tables. -/
def prose : List (String × String) :=
  [("schools", "name"), ("schools", "description"), ("schools", "address"), ("reviews", "title"),
    ("reviews", "text")]

theorem prose_column {l : Layout} (hl : l ∈ Layout.standard) {name : String}
    (hname : (l.name, name) ∈ prose) :
    (∃ col ∈ l.columns, col.name = name) ∧ l.affinity (.column name) = .text ∧ name ≠ "created_at" := by
  have hall : ∀ l ∈ Layout.standard, ∀ p ∈ prose, p.1 = l.name →
      (∃ col ∈ l.columns, col.name = p.2) ∧ l.affinity (.column p.2) = .text ∧ p.2 ≠ "created_at" := by
    decide
  exact hall l hl _ hname rfl

namespace Service

variable {db : Database} {c : Collection} {l : Layout} {values : Record} {old row : Row} {name : String}

/-! ## Texts that are written -/

/-- A row that is added has the tidy texts of its values. -/
theorem tidy_of_adds (k : Kept c l) (hadds : db.Adds c l values row) (hnodup : (Record.names values).Nodup)
    (hname : (l.name, name) ∈ prose) {w : Wording} (hgiven : (name, .ofWording w) ∈ values)
    (htidy : w.Tidy) : ∃ s, row.cell name = .text s ∧ Text.Tidy s := by
  obtain ⟨hcolumn, htext, hstamp⟩ := prose_column k.mem_standard hname
  have hstores : row.Stores l [(name, .ofWording w)] := by
    refine hadds.stores k hnodup ?_ ?_
    · simp [hgiven]
    · simp [hstamp, hcolumn]
  obtain ⟨s, rfl, hcell⟩ := hstores.wording htext
  exact ⟨s, hcell, htidy s rfl⟩

/-- A row that is amended has the texts that its values give. -/
theorem text_of_amends (k : Kept c l) (hamends : db.Amends c l values old row)
    (hnodup : (Record.names values).Nodup) (hname : (l.name, name) ∈ prose) {w : Wording}
    (hgiven : (name, .ofWording w) ∈ values) : ∃ s, w = .proper s ∧ row.cell name = .text s := by
  obtain ⟨hcolumn, htext, _⟩ := prose_column k.mem_standard hname
  have hstores : row.Stores l [(name, .ofWording w)] := by
    refine hamends.stores k hnodup ?_ ?_
    · simp [hgiven]
    · simp [hcolumn]
  exact hstores.wording htext

/-- A text of a row that is amended is given by the values, or stays. -/
theorem given_of_amends (k : Kept c l) (hamends : db.Amends c l values old row)
    (hnodup : (Record.names values).Nodup) (hname : (l.name, name) ∈ prose)
    (hwordings : ∀ d, (name, d) ∈ values → ∃ w, d = .ofWording w) :
    row.cell name = old.cell name ∨ ∃ s, (name, .text s) ∈ values ∧ row.cell name = .text s := by
  obtain ⟨⟨col, hcol, rfl⟩, _⟩ := prose_column k.mem_standard hname
  rcases hamends.written col hcol with ⟨d, _, hd, _⟩ | ⟨_, hcell⟩
  · have hd := mem_writable hd
    obtain ⟨w, rfl⟩ := hwordings d hd
    obtain ⟨s, rfl, hcell⟩ := text_of_amends k hamends hnodup hname hd
    exact .inr ⟨s, hd, hcell⟩
  · exact .inl hcell

end Service

/-! ## What drafts and changes give -/

section Given

variable {name : String} {d : Datum} {entries : Record}

theorem prose_schools : ("schools", name) ∈ prose ↔
    name = "name" ∨ name = "description" ∨ name = "address" := by
  simp [prose]

theorem prose_reviews : ("reviews", name) ∈ prose ↔ name = "title" ∨ name = "text" := by
  simp [prose]

/-- A draft of a school comes with tidy texts. -/
theorem tidy_of_schoolDraft {draft : SchoolDraft} (h : SchoolDraft.read entries = .ok draft)
    (hname : ("schools", name) ∈ prose) :
    ∃ w : Wording, w.Tidy ∧ (name, Datum.ofWording w) ∈ draft.record := by
  obtain ⟨htitle, hdescription, haddress⟩ := tidy_schoolDraft h
  rcases prose_schools.1 hname with rfl | rfl | rfl
  · exact ⟨.proper draft.name, Wording.tidy_proper htitle, by simp [SchoolDraft.record, Datum.ofWording]⟩
  · exact ⟨.proper draft.description, Wording.tidy_proper hdescription,
      by simp [SchoolDraft.record, Datum.ofWording]⟩
  · exact ⟨draft.address, haddress, by simp [SchoolDraft.record]⟩

theorem tidy_of_reviewDraft {draft : ReviewDraft} (h : ReviewDraft.read entries = .ok draft)
    (hname : ("reviews", name) ∈ prose) :
    ∃ w : Wording, w.Tidy ∧ (name, Datum.ofWording w) ∈ draft.record := by
  obtain ⟨htitle, htext⟩ := tidy_reviewDraft h
  rcases prose_reviews.1 hname with rfl | rfl
  · exact ⟨.proper draft.title, Wording.tidy_proper htitle, by simp [ReviewDraft.record, Datum.ofWording]⟩
  · exact ⟨draft.text, htext, by simp [ReviewDraft.record]⟩

/-- What a change gives for a text is one, which may be broken. -/
theorem wording_of_schoolChange {change : SchoolChange} (hname : ("schools", name) ∈ prose)
    (hd : (name, d) ∈ change.record) : ∃ w, d = .ofWording w := by
  have hfield := mem_given hd
  rcases prose_schools.1 hname with rfl | rfl | rfl
  · have hgiven : change.name.map Datum.text = some d := by
      simpa [SchoolChange.fields, eq_comm] using hfield
    obtain ⟨s, _, rfl⟩ := Option.map_eq_some_iff.1 hgiven
    exact ⟨.proper s, rfl⟩
  · have hgiven : change.description.map Datum.text = some d := by
      simpa [SchoolChange.fields, eq_comm] using hfield
    obtain ⟨s, _, rfl⟩ := Option.map_eq_some_iff.1 hgiven
    exact ⟨.proper s, rfl⟩
  · obtain ⟨w, _, rfl⟩ := address_given hd
    exact ⟨w, rfl⟩

theorem wording_of_reviewChange {change : ReviewChange} (hname : ("reviews", name) ∈ prose)
    (hd : (name, d) ∈ change.record) : ∃ w, d = .ofWording w := by
  have hfield := mem_given hd
  rcases prose_reviews.1 hname with rfl | rfl
  · have hgiven : change.title.map Datum.text = some d := by
      simpa [ReviewChange.fields, eq_comm] using hfield
    obtain ⟨s, _, rfl⟩ := Option.map_eq_some_iff.1 hgiven
    exact ⟨.proper s, rfl⟩
  · have hgiven : change.text.map Datum.ofWording = some d := by
      simpa [ReviewChange.fields, eq_comm] using hfield
    obtain ⟨w, _, rfl⟩ := Option.map_eq_some_iff.1 hgiven
    exact ⟨w, rfl⟩

/-- The values of a new review have names of their own. -/
theorem nodup_addressed (draft : ReviewDraft) (school : Datum) (caller : Caller) :
    addressed draft.record school caller =
      draft.record ++ [("school_id", school), ("user_id", caller.id)] ∧
    (Record.names (addressed draft.record school caller)).Nodup := by
  have hnodup : (Record.names (draft.record ++ [("school_id", school), ("user_id", caller.id)])).Nodup :=
    (by decide : (["title", "text", "rating", "school_id", "user_id"] : List String).Nodup)
  have heq := Record.putAll_of_nodup hnodup
  exact ⟨heq, by rw [addressed, heq]; exact hnodup⟩

theorem nodup_reviewChange (change : ReviewChange) : (Record.names change.record).Nodup :=
  (by decide : (["title", "text", "rating"] : List String).Nodup).sublist (names_given change.fields)

end Given

/-! ## Runs -/

namespace Operation

/-- The operation changes a school or review and gives a text for a field of it. -/
inductive Rewords : Operation → String → Int → String → String → Prop
  | school {id : Datum} {change : SchoolChange} {caller : Caller} {i : Int} {name s : String} :
      id.Denotes i → (name, .text s) ∈ change.record →
      Rewords (updateSchool id change caller) "schools" i name s
  | review {id : Datum} {change : ReviewChange} {caller : Caller} {i : Int} {name s : String} :
      id.Denotes i → (name, .text s) ∈ change.record →
      Rewords (updateReview id change caller) "reviews" i name s

/-- What is given for a school or review was read from a form. -/
def WellFormed : Operation → Prop
  | createSchool draft _ => ∃ entries, SchoolDraft.read entries = .ok draft
  | updateSchool _ change _ => ∃ entries, SchoolChange.read entries = .ok change
  | createReview _ draft _ => ∃ entries, ReviewDraft.read entries = .ok draft
  | updateReview _ change _ => ∃ entries, ReviewChange.read entries = .ok change
  | _ => True

/-- A text of a row is tidy, or an operation gave it for the row, word for word. -/
def Worded (requests : List (Surroundings × Operation)) (table : String) (row : Row) (name : String) :
    Prop :=
  ∃ s, row.cell name = .text s ∧
    (Text.Tidy s ∨ ∃ request ∈ requests, request.2.Rewords table row.id name s)

variable {state : State} {requests : List (Surroundings × Operation)}
  {request : Surroundings × Operation} {table name : String} {old row : Row}

/-- What is known of a text stays known of it. -/
theorem Worded.step (h : Worded requests table old name) (hid : row.id = old.id)
    (hcell : row.cell name = old.cell name) : Worded (requests ++ [request]) table row name := by
  obtain ⟨s, hs, htold⟩ := h
  refine ⟨s, hcell.trans hs, htold.imp_right ?_⟩
  rintro ⟨earlier, hearlier, hrewords⟩
  exact ⟨earlier, List.mem_append_left _ hearlier, hid ▸ hrewords⟩

theorem worded_of_tidy (h : ∃ s, row.cell name = .text s ∧ Text.Tidy s) :
    Worded requests table row name := by
  obtain ⟨s, hcell, htidy⟩ := h
  exact ⟨s, hcell, .inl htidy⟩

/-- The texts of schools after a step. -/
theorem worded_school (h : state.database.Sound) (hformed : request.2.WellFormed)
    (hbefore : ∀ school ∈ state.database.rows "schools", Worded requests "schools" school name)
    (hname : ("schools", name) ∈ prose) :
    ∀ school ∈ (step state request).database.rows "schools",
      Worded (requests ++ [request]) "schools" school name := by
  intro school hschool
  have hfrom := school_of_step h request hschool
  obtain ⟨around, operation⟩ := request
  cases hfrom with
  | kept hold hid hcells =>
    have hdescribing : name ∈ describing ∧ name ≠ "photo" := by
      rcases prose_schools.1 hname with rfl | rfl | rfl <;> decide
    exact (hbefore _ hold).step hid (hcells name hdescribing.1 hdescribing.2)
  | @published draft caller location _ _ hlocated hadds =>
    obtain ⟨entries, hread⟩ := hformed
    obtain ⟨w, htidy, hgiven⟩ := tidy_of_schoolDraft hread hname
    obtain ⟨heq, hnodup⟩ := newSchool_eq draft caller hlocated.names
    rw [heq] at hadds
    exact worded_of_tidy (tidy_of_adds .schools hadds hnodup hname (by simp [hgiven]) htidy)
  | @changed id change caller values old _ hold hvalues hamends =>
    obtain ⟨location, rfl, hnodup, hlocation⟩ := hvalues.eq_append
    have hgiven {d : Datum} (hd : (name, d) ∈ change.record ++ location) : (name, d) ∈ change.record := by
      rcases List.mem_append.1 hd with hd | hd
      · exact hd
      · have hmem := hlocation name (List.mem_map_of_mem hd)
        exact absurd hmem (by rcases prose_schools.1 hname with rfl | rfl | rfl <;> decide)
    rcases given_of_amends .schools hamends hnodup hname
      (fun d hd => wording_of_schoolChange hname (hgiven hd)) with hcell | ⟨s, hs, hcell⟩
    · exact (hbefore _ hold.mem).step hamends.same hcell
    · refine ⟨s, hcell, .inr ⟨_, List.mem_append_right _ (List.mem_singleton_self _), ?_⟩⟩
      exact .school (hamends.same ▸ hold.denotes) (hgiven hs)

/-- The texts of reviews after a step. -/
theorem worded_review (h : state.database.Sound) (hformed : request.2.WellFormed)
    (hbefore : ∀ review ∈ state.database.rows "reviews", Worded requests "reviews" review name)
    (hname : ("reviews", name) ∈ prose) :
    ∀ review ∈ (step state request).database.rows "reviews",
      Worded (requests ++ [request]) "reviews" review name := by
  intro review hreview
  have hfrom := review_of_step h request hreview
  obtain ⟨around, operation⟩ := request
  cases hfrom with
  | kept hold => exact (hbefore _ hold).step rfl rfl
  | @written school draft caller _ hadds =>
    obtain ⟨entries, hread⟩ := hformed
    obtain ⟨w, htidy, hgiven⟩ := tidy_of_reviewDraft hread hname
    obtain ⟨heq, hnodup⟩ := nodup_addressed draft school caller
    exact worded_of_tidy (tidy_of_adds .reviews hadds hnodup hname (by simp [heq, hgiven]) htidy)
  | @changed id change caller old _ hold hamends =>
    rcases given_of_amends .reviews hamends (nodup_reviewChange change) hname
      (fun d hd => wording_of_reviewChange hname hd) with hcell | ⟨s, hs, hcell⟩
    · exact (hbefore _ hold.mem).step hamends.same hcell
    · refine ⟨s, hcell, .inr ⟨_, List.mem_append_right _ (List.mem_singleton_self _), ?_⟩⟩
      exact .review (hamends.same ▸ hold.denotes) hs

/-- The texts of schools and reviews after a step. -/
theorem worded_of_step (h : state.database.Sound) (hformed : request.2.WellFormed)
    (hbefore : ∀ p ∈ prose, ∀ row ∈ state.database.rows p.1, Worded requests p.1 row p.2) :
    ∀ p ∈ prose, ∀ row ∈ (step state request).database.rows p.1,
      Worded (requests ++ [request]) p.1 row p.2 := by
  rintro ⟨table, name⟩ hname
  have htable : table = "schools" ∨ table = "reviews" := by
    have hall : ∀ p ∈ prose, p.1 = "schools" ∨ p.1 = "reviews" := by decide
    exact hall _ hname
  rcases htable with rfl | rfl
  · exact worded_school h hformed (hbefore _ hname) hname
  · exact worded_review h hformed (hbefore _ hname) hname

/-- The texts of schools and reviews after a run. -/
theorem worded_run (requests : List (Surroundings × Operation))
    (hformed : ∀ request ∈ requests, request.2.WellFormed) :
    ∀ p ∈ prose, ∀ row ∈ (runAll .fresh requests).database.rows p.1, Worded requests p.1 row p.2 := by
  induction requests using List.reverseRecOn with
  | nil =>
    intro p hp row hrow
    have hnone : Database.fresh.rows p.1 = [] :=
      (by decide : ∀ p ∈ prose, Database.fresh.rows p.1 = []) p hp
    exact nomatch hnone ▸ hrow
  | append_singleton requests request ih =>
    rw [runAll_concat]
    refine worded_of_step (sound_run sound_fresh requests) ?_ ?_
    · exact hformed request (List.mem_append_right _ (List.mem_singleton_self _))
    · exact ih fun earlier hearlier => hformed earlier (List.mem_append_left _ hearlier)

/-- A change that is carried out leaves the texts that it gives as they are given. -/
theorem text_of_rewords (h : state.database.Sound) {around : Surroundings} {operation : Operation}
    {i : Int} {s : String} (hrewords : operation.Rewords table i name s) (hname : (table, name) ∈ prose)
    (hok : (run operation.perform around state).1.isOk = true) :
    ∃ row ∈ (step state (around, operation)).database.rows table,
      row.id = i ∧ row.cell name = .text s := by
  cases hrewords with
  | @school id change caller _ _ _ hid hgiven =>
    have hachieves : Achieves around state.database (updateSchool id change caller).perform fun _ after =>
        ∃ row ∈ after.rows "schools", row.id = i ∧ row.cell name = .text s := by
      refine Achieves.map ((achieves_updateSchool h id change caller).weaken ?_)
      rintro _ after ⟨old, row, values, hold, hvalues, hamends, rfl, _⟩
      obtain ⟨location, rfl, hnodup, _⟩ := hvalues.eq_append
      have hmem := mem_amended_self h Kept.schools.mem_standard hold.mem hamends.same
      obtain ⟨_, ⟨⟩, hcell⟩ := text_of_amends (w := .proper s) .schools hamends hnodup hname
        (List.mem_append_left _ hgiven)
      exact ⟨row, hmem, hamends.same.trans (hold.denotes.unique hid), hcell⟩
    exact (hachieves.of_isOk rfl hok).elim fun _ hdone => hdone
  | @review id change caller _ _ _ hid hgiven =>
    have hachieves : Achieves around state.database (updateReview id change caller).perform fun _ after =>
        ∃ row ∈ after.rows "reviews", row.id = i ∧ row.cell name = .text s := by
      refine Achieves.map ((achieves_updateReview h id change caller).weaken ?_)
      rintro _ after ⟨old, row, hold, hamends, hleaves, _⟩
      have hmem := mem_amended_self h Kept.reviews.mem_standard hold.mem hamends.same
      obtain ⟨mid, hmakes, hrows⟩ := hleaves.rows_eq
      obtain ⟨_, ⟨⟩, hcell⟩ := text_of_amends (w := .proper s) .reviews hamends
        (nodup_reviewChange change) hname hgiven
      refine ⟨row, ?_, hamends.same.trans (hold.denotes.unique hid), hcell⟩
      cases hmakes
      exact hrows .reviews Kept.reviews.mem_standard (by decide) ▸ hmem
    exact (hachieves.of_isOk rfl hok).elim fun _ hdone => hdone

/-- No two schools have one name. -/
theorem names_differ (h : state.database.Sound) {school other : Row}
    (hschool : school ∈ state.database.rows "schools") (hother : other ∈ state.database.rows "schools")
    (hdiffer : school.id ≠ other.id) {s : String} (hname : school.cell "name" = .text s) :
    other.cell "name" ≠ .text s := by
  intro hsame
  refine h.unique .schools Kept.schools.mem_standard ["name"] (by decide) school hschool other hother
    hdiffer fun column hcolumn => ?_
  rw [List.mem_singleton.1 hcolumn, hname, hsame]
  exact ⟨rfl, Cell.compare_self trivial⟩

/-! ## Results -/

/-- An admin publishes two schools, and gives the second the name of the first between blanks. -/
def renamed : List (Surroundings × Operation) :=
  [(calm, .register ⟨"Ada", "ada@example.com", "secret1", "user"⟩),
    (calm, .createSchool ⟨"Northside", "A school", none, none, none, .proper "1 Main St"⟩ admin),
    (calm, .createSchool ⟨"Southside", "A school", none, none, none, .proper "2 Side St"⟩ admin),
    (calm, .updateSchool (.int 2) ⟨some " Northside ", none, none, none, none, none⟩ admin)]

theorem wellFormed_renamed : ∀ request ∈ renamed, request.2.WellFormed := by
  simp only [renamed, List.forall_mem_cons]
  refine ⟨trivial, ?_, ?_, ?_, fun _ hnone => nomatch hnone⟩
  · exact ⟨[("name", .text "Northside"), ("description", .text "A school"),
      ("address", .text "1 Main St")], rfl⟩
  · exact ⟨[("name", .text "Southside"), ("description", .text "A school"),
      ("address", .text "2 Side St")], rfl⟩
  · exact ⟨[("name", .text " Northside ")], rfl⟩

theorem names_of_renamed :
    ((runAll .fresh renamed).database.rows "schools").map (fun school => (school.id, school.cell "name")) =
      [(1, .text "Northside"), (2, .text " Northside ")] := by
  decide +kernel

/-- After every run of operations on what was read from forms, each text of a school or review is tidy
or was given, word for word, by a change of that school or review; the same goes for one of the names of
two schools that differ in blanks at their ends alone. A change that is carried out does store the texts
that it gives as they are. -/
theorem worded_of_run (requests : List (Surroundings × Operation))
    (hformed : ∀ request ∈ requests, request.2.WellFormed) :
    let state := runAll .fresh requests
    (∀ p ∈ prose, ∀ row ∈ state.database.rows p.1, Worded requests p.1 row p.2) ∧
    (∀ school ∈ state.database.rows "schools", ∀ other ∈ state.database.rows "schools",
      school.id ≠ other.id → ∀ s t, school.cell "name" = .text s → other.cell "name" = .text t →
        Text.trim s = Text.trim t → ∃ request ∈ requests,
          request.2.Rewords "schools" school.id "name" s ∨
            request.2.Rewords "schools" other.id "name" t) ∧
    ∀ around operation table i name s, (table, name) ∈ prose → Rewords operation table i name s →
      (run operation.perform around state).1.isOk = true →
        ∃ row ∈ (step state (around, operation)).database.rows table,
          row.id = i ∧ row.cell name = .text s := by
  intro state
  have hsound : state.database.Sound := sound_run sound_fresh requests
  have hworded := worded_run requests hformed
  refine ⟨hworded, ?_, ?_⟩
  · intro school hschool other hother hdiffer s t hs ht htrim
    have hnamed := hworded ("schools", "name") (by decide)
    obtain ⟨s', hs', htidy | ⟨request, hrequest, hrewords⟩⟩ := hnamed school hschool
    · obtain ⟨t', ht', htidy' | ⟨request, hrequest, hrewords⟩⟩ := hnamed other hother
      · -- two tidy names that are trimmed to the same are the same
        obtain rfl := Cell.text.inj (hs.symm.trans hs')
        obtain rfl := Cell.text.inj (ht.symm.trans ht')
        rw [htidy.2, htidy'.2] at htrim
        exact absurd (htrim ▸ ht) (names_differ hsound hschool hother hdiffer hs)
      · obtain rfl := Cell.text.inj (ht.symm.trans ht')
        exact ⟨request, hrequest, .inr hrewords⟩
    · obtain rfl := Cell.text.inj (hs.symm.trans hs')
      exact ⟨request, hrequest, .inl hrewords⟩
  · intro around operation table i name s hname hrewords hok
    exact text_of_rewords hsound hrewords hname hok

theorem worded_of_renamed :
    let state := runAll .fresh renamed
    (∀ request ∈ renamed, request.2.WellFormed) ∧
    (∀ p ∈ prose, ∀ row ∈ state.database.rows p.1, Worded renamed p.1 row p.2) ∧
    (∃ school ∈ state.database.rows "schools", ∃ other ∈ state.database.rows "schools",
      school.cell "name" = .text "Northside" ∧ other.cell "name" = .text " Northside " ∧
        ∃ request ∈ renamed, request.2.Rewords "schools" school.id "name" "Northside" ∨
          request.2.Rewords "schools" other.id "name" " Northside ") ∧
    ∃ row ∈ (step state (calm, .updateSchool (.int 1) ⟨none, some " New ", none, none, none, none⟩
        admin)).database.rows "schools", row.id = 1 ∧ row.cell "description" = .text " New " := by
  intro state
  obtain ⟨hworded, hnames, hstored⟩ := worded_of_run renamed wellFormed_renamed
  have hnamed {i : Int} {name : String}
      (h : (i, Cell.text name) ∈ [(1, Cell.text "Northside"), (2, .text " Northside ")]) :
      ∃ school ∈ state.database.rows "schools", school.id = i ∧ school.cell "name" = .text name := by
    rw [← names_of_renamed] at h
    obtain ⟨school, hschool, heq⟩ := List.mem_map.1 h
    exact ⟨school, hschool, congrArg Prod.fst heq, congrArg Prod.snd heq⟩
  obtain ⟨school, hschool, hid, hname⟩ := hnamed (by decide : ((1, .text "Northside") : Int × Cell) ∈ _)
  obtain ⟨other, hother, hid', hname'⟩ := hnamed (by decide : ((2, .text " Northside ") : Int × Cell) ∈ _)
  have hdiffer : school.id ≠ other.id := by
    rw [hid, hid']
    decide
  have htrim : Text.trim "Northside" = Text.trim " Northside " := by decide
  have hdenotes : (Datum.int 1).Denotes 1 := ⟨.int 1, rfl, rfl⟩
  refine ⟨wellFormed_renamed, hworded, ?_, ?_⟩
  · exact ⟨school, hschool, other, hother, hname, hname',
      hnames school hschool other hother hdiffer _ _ hname hname' htrim⟩
  · refine hstored calm (.updateSchool (.int 1) ⟨none, some " New ", none, none, none, none⟩ admin)
      "schools" 1 "description" " New " (by decide) ?_ (by decide +kernel)
    exact .school hdenotes (List.mem_singleton_self _)

/-- The names of two schools may differ in blanks at their ends alone. -/
theorem untidy_of_renamed : (∀ request ∈ renamed, request.2.WellFormed) ∧
    ((runAll .fresh renamed).database.rows "schools").map (fun school => school.cell "name") =
      [.text "Northside", .text " Northside "] ∧ ¬ Text.Tidy " Northside " := by
  have hnames := congrArg (List.map Prod.snd) names_of_renamed
  rw [List.map_map] at hnames
  exact ⟨wellFormed_renamed, hnames, by decide⟩

end Operation
end SchoolCatalog
