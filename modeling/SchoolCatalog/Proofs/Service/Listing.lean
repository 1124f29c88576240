import SchoolCatalog.Service.Listing
import SchoolCatalog.Proofs.Service.Related
import SchoolCatalog.Proofs.Service.Runs

/-!
# Answers to list requests

What a list request answers in a sound database, and when it does not. The answer is one window of the
rows that match, in order, each shown with what is attached to it; reading leaves the state as it is.
Within the bounds of statements, the one thing that makes a request fail is a number of more than 64
bits: among the values of its conditions, or in a window that the settings make so.

Results:
1. `run_list`, `run_answer`: the answer to a list request.
2. `answered_of_run`: after every run a request is answered if and only if its numbers have 64 bits.
3. `refused_identity`: a course list is refused for an identity of twenty digits.
-/

namespace SchoolCatalog

open Store Service

/-- Keys of related records are looked up in batches that a statement can hold. -/
def Surroundings.Batched (around : Surroundings) : Prop :=
  0 < around.batchSize ∧ around.batchSize ≤ Statement.greatestParameters

instance : DecidablePred Surroundings.Batched := fun around =>
  inferInstanceAs (Decidable (0 < around.batchSize ∧ around.batchSize ≤ Statement.greatestParameters))

/-- The layout of the table of a collection. -/
def Collection.layout (c : Collection) : Layout :=
  (Layout.standard.find? fun l => l.name = c.name).getD .users

/-- A collection that is listed, and what is attached to its records. -/
inductive Listed : Collection → Layout → Option Include → Prop
  | plain {c : Collection} {l : Layout} (kept : Kept c l) : Listed c l none
  | schools : Listed .schools .schools (some .schoolCourses)
  | courses : Listed .courses .courses (some .schoolSummary)
  | reviews : Listed .reviews .reviews (some .schoolSummary)

namespace Listed

variable {c : Collection} {l : Layout} {inc : Include} {related : Option Include}

theorem kept (h : Listed c l related) : Kept c l := by
  cases h with
  | plain kept => exact kept
  | schools => exact .schools
  | courses => exact .courses
  | reviews => exact .reviews

/-- What is attached to records is found by keys. -/
theorem attaches (h : Listed c l (some inc)) : Attaches c l inc inc.collection.layout := by
  have hsummary {c : Collection} {l : Layout} (k : Kept c l) (hkey : IsKey c l "school_id") :
      Attaches c l .schoolSummary .schools :=
    ⟨k, .schools, hkey, isKey_id .schools, by decide⟩
  cases h with
  | schools =>
    exact ⟨.schools, .courses, isKey_id .schools, Aggregate.cost.isKey_school, by decide⟩
  | courses => exact hsummary .courses Aggregate.cost.isKey_school
  | reviews => exact hsummary .reviews Aggregate.rating.isKey_school

end Listed

namespace ListRequest

variable {r : ListRequest} {c : Collection} {l : Layout} {related : Option Include}
  {around : Surroundings} {state : State}

/-! ## Pages -/

/-- The selection of the records of a page. -/
def selection (r : ListRequest) (related : Option Include) : Selection where
  conditions := r.conditions
  projection := r.fetched related
  sort := r.sort
  skip := r.skip
  limit := some r.limit

/-- The rows that match, in the order that is asked for. -/
def ordered (r : ListRequest) (db : Database) (c : Collection) (l : Layout) : List Row :=
  sortRows (rowKeys c r.sort) (db.matching c l r.conditions)

/-- The rows of the page. -/
def pageRows (r : ListRequest) (db : Database) (c : Collection) (l : Layout) : List Row :=
  window r.skip (some (min r.limit Number.greatestWord)) (r.ordered db c l)

/-- The record that is shown of a row: the fields that were asked for, and what is attached. -/
def present (r : ListRequest) (db : Database) (c : Collection) (l : Layout)
    (related : Option Include) (row : Row) : Record :=
  let record := recordOf c (l.shown (columns c (r.fetched related) false)) row
  match related with
  | none => record
  | some inc =>
    let full := Record.put record inc.path
      (attachment inc (db.relatable inc inc.collection.layout) (.int (row.key inc.localField)))
    if r.dropsLocal inc then Record.remove full inc.localField else full

/-- The page that a request is answered with. -/
def answerPage (r : ListRequest) (db : Database) (c : Collection) (l : Layout)
    (related : Option Include) : ResultPage where
  records := (r.pageRows db c l).map (r.present db c l related)
  total := (db.matching c l r.conditions).length
  page := r.page
  limit := r.limit

/-- Every number that the statement of a request binds has 64 bits, or is cut down to the greatest that
has. -/
structure FitsWord (r : ListRequest) : Prop where
  conditions : ∀ cond ∈ r.conditions, cond.FitsWord
  skip : Number.leastWord ≤ r.skip
  limit : Number.leastWord ≤ r.limit

instance : DecidablePred FitsWord := fun r =>
  decidable_of_iff ((∀ cond ∈ r.conditions, cond.FitsWord) ∧ Number.leastWord ≤ r.skip ∧
      Number.leastWord ≤ r.limit)
    ⟨fun h => ⟨h.1, h.2.1, h.2.2⟩, fun h => ⟨h.conditions, h.skip, h.limit⟩⟩

theorem bindWindow_eq (r : ListRequest) :
    bindWindow r.skip (some r.limit) =
      if Number.leastWord ≤ r.skip ∧ Number.leastWord ≤ r.limit then
        .ok (r.skip, some (min r.limit Number.greatestWord))
      else .error .outOfRange := by
  have hskip : min r.skip Number.greatestWord = r.skip := by
    rw [skip]
    exact Int.min_eq_left (Int.min_le_right _ _)
  have hskipWord : Number.fitsWord r.skip = decide (Number.leastWord ≤ r.skip) := by
    have hmost : r.skip ≤ Number.greatestWord := Int.min_le_right _ _
    simp [Number.fitsWord, hmost]
  have hlimitWord : Number.fitsWord (min r.limit Number.greatestWord) =
      decide (Number.leastWord ≤ r.limit) := by
    have hmost : min r.limit Number.greatestWord ≤ Number.greatestWord := Int.min_le_right _ _
    rw [Number.fitsWord, decide_eq_true hmost, Bool.and_true, decide_eq_decide]
    constructor
    · exact fun hleast => Int.le_trans hleast (Int.min_le_left _ _)
    · exact fun hleast => Int.le_min.2 ⟨hleast, by decide⟩
  simp only [bindWindow, hskip, hskipWord, hlimitWord]
  by_cases hs : Number.leastWord ≤ r.skip <;> by_cases hl : Number.leastWord ≤ r.limit <;>
    simp [hs, hl]

theorem fetched_none (r : ListRequest) : r.fetched none = r.projection := by
  unfold fetched
  cases r.projection <;> rfl

/-- The field that related records are found by is fetched. -/
theorem localField_fetched {inc : Include} (hkey : IsKey c l inc.localField) :
    inc.localField ∈ columns c (r.fetched (some inc)) false := by
  unfold fetched
  cases r.projection with
  | none => exact hkey.1
  | some fields =>
    dsimp only
    split
    next hin => exact mem_columns (List.contains_iff_mem.1 hin) hkey.1
    next => exact mem_columns (List.mem_append_right _ (List.mem_singleton_self _)) hkey.1

theorem pageRows_subset {db : Database} {row : Row} (h : row ∈ r.pageRows db c l) :
    row ∈ db.rows l.name := by
  have hwindow {rows : List Row} {skip : Int} {limit : Option Int}
      (h : row ∈ window skip limit rows) : row ∈ rows := by
    unfold window at h
    dsimp only at h
    split at h
    · split at h
      · exact List.mem_of_mem_drop h
      · exact List.mem_of_mem_drop (List.mem_of_mem_take h)
    · exact List.mem_of_mem_drop h
  exact (List.mem_filter.1 ((sortRows_perm _ _).mem_iff.1 (hwindow h))).1

/-! ## Running requests -/

/-- Counting and finding fail for the same numbers, and otherwise tell the number of rows that match and
those of the page. -/
theorem read_page {db : Database} (h : db.Standing) (k : Kept c l)
    (hplain : ∀ cond ∈ r.conditions, cond.IsPlain)
    (hbounds : (r.selection related).keepsBounds c = true) :
    db.counted c r.conditions =
      (if ∀ cond ∈ r.conditions, cond.FitsWord then .ok (db.matching c l r.conditions).length
        else .error .outOfRange) ∧
    db.found c (r.selection related) =
      if r.FitsWord then .ok ((r.pageRows db c l).map
        (recordOf c (l.shown (columns c (r.fetched related) false))))
      else .error .outOfRange := by
  obtain ⟨clauses, hclauses⟩ := Condition.clauses?_of_plain (c := c) hplain
  have hselection : ((r.selection related).statement c clauses).keepsBounds = true := by
    have hconditions : Condition.clauses? c (r.selection related).conditions = some clauses := hclauses
    rwa [Selection.keepsBounds, hconditions, Option.all_some] at hbounds
  have hcounted := counted_eq h k hclauses (keepsBounds_count hselection)
  have hfound := found_eq h k (s := r.selection related) hclauses hselection
  have hsame : (r.selection related).conditions.mapM (Condition.test c l) =
      r.conditions.mapM (Condition.test c l) := rfl
  have hwindow : bindWindow (r.selection related).skip (r.selection related).limit =
      bindWindow r.skip (some r.limit) := rfl
  rw [hsame, hwindow, bindWindow_eq] at hfound
  have htests := SucceedsIf.mapM fun cond hcond => Condition.test_succeeds c l (hplain cond hcond)
  by_cases hconditions : ∀ cond ∈ r.conditions, cond.FitsWord
  · obtain ⟨tests, hok⟩ := htests.1 hconditions
    rw [hok] at hcounted hfound
    rw [if_pos hconditions, hcounted, hfound]
    refine ⟨rfl, ?_⟩
    by_cases hrange : Number.leastWord ≤ r.skip ∧ Number.leastWord ≤ r.limit
    · rw [if_pos hrange, if_pos ⟨hconditions, hrange.1, hrange.2⟩]
      rfl
    · rw [if_neg hrange, if_neg fun hfits => hrange ⟨hfits.skip, hfits.limit⟩]
      rfl
  · -- counting comes first, and fails already
    rw [htests.2 hconditions] at hcounted hfound
    have hno : ¬ r.FitsWord := fun hfits => hconditions hfits.conditions
    rw [if_neg hconditions, if_neg hno, hcounted, hfound]
    exact ⟨rfl, rfl⟩

/-- Taking out the field that related records are found by makes the records that a list shows. -/
theorem present_eq (db : Database) (inc : Include) (rows : List Row) :
    let full := rows.map fun row =>
      Record.put (recordOf c (l.shown (columns c (r.fetched (some inc)) false)) row) inc.path
        (attachment inc (db.relatable inc inc.collection.layout) (.int (row.key inc.localField)))
    (if r.dropsLocal inc then full.map fun x => Record.remove x inc.localField else full) =
      rows.map (r.present db c l (some inc)) := by
  intro full
  cases hdrop : r.dropsLocal inc with
  | true =>
    rw [if_pos rfl, List.map_map]
    refine List.map_congr_left fun row _ => ?_
    rw [present, hdrop]
    rfl
  | false =>
    refine List.map_congr_left fun row _ => ?_
    rw [present, hdrop]
    rfl

/-- The answer to a request with plain conditions within the bounds of statements. -/
theorem run_list (h : state.database.Sound) (listed : Listed c l related)
    (hsize : 0 < around.batchSize) (hmost : around.batchSize ≤ Statement.greatestParameters)
    (hplain : ∀ cond ∈ r.conditions, cond.IsPlain)
    (hbounds : (r.selection related).keepsBounds c = true) :
    Service.run (r.run c related {}) around state =
      (if r.FitsWord then .ok (r.answerPage state.database c l related) else .error .outOfRange,
        state) := by
  obtain ⟨hcounted, hfound⟩ := read_page h.standing listed.kept hplain hbounds
  have hfind : Service.run (({} : Store).find c
      { conditions := r.conditions, projection := r.fetched related, sort := r.sort, skip := r.skip,
        limit := some r.limit }) around state = _ :=
    (run_find c (r.selection related)).trans (congrArg (·, state) hfound)
  unfold ListRequest.run
  rw [run_bind, run_count, hcounted]
  by_cases hconditions : ∀ cond ∈ r.conditions, cond.FitsWord
  · rw [if_pos hconditions]
    dsimp only
    rw [run_bind, hfind]
    by_cases hfits : r.FitsWord
    · rw [if_pos hfits, if_pos hfits]
      have hrows : ∀ row ∈ r.pageRows state.database c l, row ∈ state.database.rows l.name :=
        fun row hrow => pageRows_subset hrow
      cases related with
      | none => rfl
      | some inc =>
        have a := listed.attaches
        dsimp only
        rw [run_bind, run_populate h a hsize hmost hrows _ (localField_fetched a.localKey)]
        dsimp only
        rw [run_bind, run_pure]
        dsimp only
        rw [run_pure, present_eq]
        rfl
    · rw [if_neg hfits, if_neg hfits]
  · rw [if_neg hconditions, if_neg fun hfits => hconditions hfits.conditions]

/-- The answer to the parameters of a list request within the bounds of statements. -/
theorem run_answer (h : state.database.Sound) (listed : Listed c l related)
    (batched : around.Batched) {params : Parameters}
    (hr : parse c params (defaultLimit around.settings none) = r)
    (hbounds : (r.selection related).keepsBounds c = true) :
    Service.run (answer c params related {}) around state =
      (if r.FitsWord then .ok (r.answerPage state.database c l related).envelope
        else .error .outOfRange, state) := by
  have hlist := run_list h listed batched.1 batched.2 (hr ▸ parse_plain c params _) hbounds
  unfold answer
  rw [run_bind, run_read]
  dsimp only
  rw [hr, run_bind, hlist]
  by_cases hfits : r.FitsWord
  · rw [if_pos hfits, if_pos hfits]
    rfl
  · rw [if_neg hfits, if_neg hfits]

/-- A selection that finds anything at all keeps within the bounds of statements. -/
theorem bounded_of_found {db : Database} (h : db.Standing) (k : Kept c l) {s : Selection}
    {records : List Record} (hfound : db.found c s = .ok records) : s.keepsBounds c = true := by
  unfold Database.found at hfound
  unfold Selection.keepsBounds
  cases hclauses : Condition.clauses? c s.conditions with
  | none => rfl
  | some clauses =>
    rw [hclauses] at hfound
    dsimp only at hfound
    rw [select_eq h k fun clause hclause f hf => columnOf?_declared hclauses hclause hf] at hfound
    rw [Option.all_some]
    cases hbounds : (s.statement c clauses).keepsBounds with
    | true => rfl
    | false =>
      rw [selected, hbounds, if_neg Bool.false_ne_true] at hfound
      cases hfound

/-- A request that has a page has counted records and found some. -/
theorem read_of_run {page : ResultPage} {after : State}
    (hrun : Service.run (r.run c related {}) around state = (.ok page, after)) :
    (∃ total, state.database.counted c r.conditions = .ok total) ∧
      ∃ records, state.database.found c (r.selection related) = .ok records := by
  have hfind : Service.run (({} : Store).find c
      { conditions := r.conditions, projection := r.fetched related, sort := r.sort, skip := r.skip,
        limit := some r.limit }) around state = _ :=
    run_find c (r.selection related)
  unfold ListRequest.run at hrun
  rw [run_bind, run_count] at hrun
  cases hcounted : state.database.counted c r.conditions with
  | error failure =>
    rw [hcounted] at hrun
    exact nomatch hrun
  | ok total =>
    rw [hcounted] at hrun
    dsimp only at hrun
    rw [run_bind, hfind] at hrun
    cases hfound : state.database.found c (r.selection related) with
    | error failure =>
      rw [hfound] at hrun
      exact nomatch hrun
    | ok records => exact ⟨⟨total, rfl⟩, records, rfl⟩

/-- An answer is the envelope of the page of the request. -/
theorem page_of_answered {params : Parameters} (hr : parse c params (defaultLimit around.settings none) = r)
    {envelope : Record} {after : State}
    (hanswered : Service.run (answer c params related {}) around state = (.ok envelope, after)) :
    ∃ page : ResultPage, envelope = page.envelope ∧
      Service.run (r.run c related {}) around state = (.ok page, after) := by
  unfold answer at hanswered
  rw [run_bind, run_read] at hanswered
  dsimp only at hanswered
  rw [hr, run_bind] at hanswered
  cases hrun : Service.run (r.run c related {}) around state with
  | mk outcome reached =>
    rw [hrun] at hanswered
    cases outcome with
    | error failure => exact nomatch hanswered
    | ok page =>
      cases hanswered
      exact ⟨page, rfl, rfl⟩

/-- A request that is answered keeps within the bounds of statements. -/
theorem bounded_of_answered (h : state.database.Standing) (k : Kept c l) {params : Parameters}
    (hr : parse c params (defaultLimit around.settings none) = r) {envelope : Record}
    (hanswered : (Service.run (answer c params related {}) around state).1 = .ok envelope) :
    (r.selection related).keepsBounds c = true := by
  obtain ⟨_, _, hrun⟩ := page_of_answered hr (Prod.ext hanswered rfl)
  obtain ⟨_, records, hfound⟩ := read_of_run hrun
  exact bounded_of_found h k hfound

/-- A request that is answered keeps within the bounds of statements, its numbers have 64 bits, and the
answer is its page. -/
theorem answered_spec (h : state.database.Sound) (listed : Listed c l related) (batched : around.Batched)
    {params : Parameters} (hr : parse c params (defaultLimit around.settings none) = r) {envelope : Record}
    (hanswered : (Service.run (answer c params related {}) around state).1 = .ok envelope) :
    (r.selection related).keepsBounds c = true ∧ r.FitsWord ∧
      envelope = (r.answerPage state.database c l related).envelope := by
  have hbounds := bounded_of_answered h.standing listed.kept hr hanswered
  rw [run_answer h listed batched hr hbounds] at hanswered
  by_cases hfits : r.FitsWord
  · rw [if_pos hfits] at hanswered
    exact ⟨hbounds, hfits, (Except.ok.inj hanswered).symm⟩
  · rw [if_neg hfits] at hanswered
    exact nomatch hanswered

/-- The rows of a request are those that match, each before those after it in the order asked for. -/
theorem ordered_spec {db : Database} (h : db.Sound) (k : Kept c l)
    (hsort : ∀ key ∈ r.sort, c.hasField key.field = true) :
    (r.ordered db c l).Perm (db.matching c l r.conditions) ∧
      (r.ordered db c l).Pairwise (Precedes · · r.sort) := by
  have hrows : ∀ row ∈ db.matching c l r.conditions, row.Proper := fun row hrow =>
    h.row_proper k.mem_standard (List.mem_filter.1 hrow).1
  have hids : ((db.matching c l r.conditions).map (·.id)).Nodup :=
    (h.ids_nodup k.mem_standard).sublist (List.filter_sublist.map _)
  exact ⟨sortRows_perm _ _, sortRows_precedes hrows hids hsort⟩

/-- Under settings that make sense no window is out of range. -/
theorem fitsWord_iff (c : Collection) (params : Parameters) {settings : Settings}
    (hsettings : 0 ≤ settings.defaultPageLimit) :
    (parse c params (defaultLimit settings none)).FitsWord ↔
      ∀ cond ∈ (parse c params (defaultLimit settings none)).conditions, cond.FitsWord := by
  refine ⟨FitsWord.conditions, fun hconditions => ?_⟩
  have hpage := (parse_page c params (defaultLimit settings none)).1
  have hlimit : 0 ≤ (parse c params (defaultLimit settings none)).limit := by
    rcases positiveOr_cases (defaultLimit settings none) (params.lookup "limit") with hsame | hrange
    · show 0 ≤ positiveOr (defaultLimit settings none) (params.lookup "limit")
      rw [hsame]
      exact hsettings
    · exact Int.le_of_lt hrange.1
  generalize parse c params (defaultLimit settings none) = r at hconditions hpage hlimit
  have hskip : 0 ≤ r.skip := by
    rw [skip]
    refine Int.le_min.2 ⟨?_, by decide⟩
    exact Int.mul_nonneg (by omega) hlimit
  exact ⟨hconditions, Int.le_trans (by decide) hskip, Int.le_trans (by decide) hlimit⟩

end ListRequest

/-! ## Results -/

namespace Operation

open ListRequest

/-- A course list asked for by an identity of twenty digits. -/
def farIdentity : Parameters := [("school_id", .one "99999999999999999999")]

/-- After every run, a list request within the bounds of statements is answered if and only if its numbers
have 64 bits; otherwise it fails for that alone. Under settings that make sense these are the numbers
that its conditions compare with. -/
theorem answered_of_run (requests : List (Surroundings × Operation)) (working : Working requests)
    {c : Collection} {l : Layout} {related : Option Include} (listed : Listed c l related)
    (params : Parameters) {around : Surroundings} (batched : around.Batched)
    (bounded : ((parse c params (defaultLimit around.settings none)).selection related).keepsBounds c =
      true) :
    let state := runAll .fresh requests
    let r := parse c params (defaultLimit around.settings none)
    let answered := Service.run (answer c params related {}) around state
    ((∃ page : ResultPage, answered.1 = .ok page.envelope) ↔ r.FitsWord) ∧
    (¬ r.FitsWord → answered.1 = .error .outOfRange) ∧
    answered.2 = state ∧
    (0 ≤ around.settings.defaultPageLimit →
      (r.FitsWord ↔ ∀ cond ∈ r.conditions, cond.FitsWord)) := by
  intro state r answered
  have hanswered : answered = _ := run_answer (current_run working).sound listed batched rfl bounded
  refine ⟨?_, ?_, ?_, fitsWord_iff c params⟩
  · rw [hanswered]
    constructor
    · rintro ⟨page, hpage⟩
      by_cases hfits : r.FitsWord
      · exact hfits
      · rw [if_neg hfits] at hpage
        exact nomatch hpage
    · intro hfits
      exact ⟨_, if_pos hfits⟩
  · intro hfits
    rw [hanswered]
    exact if_neg hfits
  · rw [hanswered]

theorem answered_of_priced : Working priced ∧ ∃ page : ResultPage,
    (Service.run (answer .courses [("tuition", .one "lte:1000"), ("page", .one "far")]
      (some .schoolSummary) {}) calm (runAll .fresh priced)).1 = .ok page.envelope := by
  have working : Working priced := by decide
  have hanswered := answered_of_run priced working .courses
    [("tuition", .one "lte:1000"), ("page", .one "far")] (show calm.Batched by decide)
    (by decide)
  exact ⟨working, hanswered.1.2 (by decide)⟩

/-- A course list is refused for an identity of twenty digits, although its conditions can be compiled. -/
theorem refused_identity : Working [] ∧
    ((parse .courses farIdentity (defaultLimit calm.settings none)).selection
      (some .schoolSummary)).keepsBounds .courses = true ∧
    (Service.run (answer .courses farIdentity (some .schoolSummary) {}) calm
      (runAll .fresh [])).1 = .error .outOfRange := by
  have hbounds : ((parse .courses farIdentity (defaultLimit calm.settings none)).selection
      (some .schoolSummary)).keepsBounds .courses = true := by
    decide
  have hfar : ¬ (parse .courses farIdentity (defaultLimit calm.settings none)).FitsWord := by
    decide
  have hsound : (runAll .fresh []).database.Sound := sound_fresh
  have hanswer := run_answer hsound .courses (show calm.Batched by decide) rfl hbounds
  refine ⟨by decide, hbounds, ?_⟩
  rw [hanswer, if_neg hfar]

end Operation
end SchoolCatalog
