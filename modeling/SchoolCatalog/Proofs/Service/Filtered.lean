import Mathlib.Algebra.BigOperators.Group.List.Basic
import SchoolCatalog.Proofs.Service.Walk
import SchoolCatalog.Proofs.Store.Filtering

/-!
# Filtered lists

What a list request with filters is answered with, after every run. All its pages together show the rows
that every filter accepts, each once, and no other row, and counting counts them. That holds within the
bounds of statements, which few filters keep; a request beyond them is refused as a whole. Filters on the
instant of creation are exact for texts that do not look like numbers; a text that does is a number
there, which every stamp is greater than.

Results:
1. `filtered_of_run`: requests whose filters ask for values of the fields' kinds.
2. `refused_of_many`: a thousand filters that all accept an account are refused.
3. `dated_of_run`: requests with a filter on the instant of creation.
4. `missed_by_year`: an account is missing among those created by a later year.
-/

namespace SchoolCatalog

open Store Service ListRequest

variable {around : Surroundings} {c : Collection} {l : Layout} {related : Option Include}
  {state : State} {params : Parameters} {r : ListRequest} {wanted : Row → Prop}

/-! ## Answers with all rows that are wanted -/

/-- The walk through a list shows each row once of which something holds, and no other row; and counting
counts these rows. -/
def Returns (around : Surroundings) (state : State) (c : Collection) (l : Layout)
    (related : Option Include) (params : Parameters) (wanted : Row → Prop) : Prop :=
  let r := parse c params (defaultLimit around.settings none)
  ∃ (envelopes : List Record) (rows : List Row), Walk around c related state params envelopes ∧
    (∀ others, Walk around c related state params others → others = envelopes) ∧
    (∀ row, row ∈ rows ↔ row ∈ state.database.rows l.name ∧ wanted row) ∧
    (rows.map (·.id)).Nodup ∧
    envelopes.flatMap data = rows.map (fun row => .dict (r.present state.database c l related row)) ∧
    Service.run (({} : Store).count c r.conditions) around state = (.ok rows.length, state)

namespace ListRequest

/-- Within the bounds of statements the rows that satisfy all conditions are returned. -/
theorem returns_of_bounded (sound : state.database.Sound) (listed : Listed c l related)
    (batched : around.Batched) (unpaged : params.lookup "page" = none)
    (hr : parse c params (defaultLimit around.settings none) = r)
    (size : 0 < r.limit ∧ r.limit ≤ Number.greatestWord)
    (hfits : ∀ cond ∈ r.conditions, cond.FitsWord)
    (hbounds : (r.selection related).keepsBounds c = true)
    (hwanted : ∀ row ∈ state.database.rows l.name,
      (∀ cond ∈ r.conditions, Condition.holds c l row cond = true) ↔ wanted row) :
    Returns around state c l related params wanted := by
  have k := listed.kept
  obtain ⟨n, hn⟩ := Int.eq_ofNat_of_zero_le (Int.le_of_lt size.1)
  have p : r.Paged around state c l related n :=
    ⟨sound, listed, batched, hbounds, hfits, by omega, hn ▸ size.2, hn⟩
  -- a request without a page asks for the first one
  have hfirst : parse c params (defaultLimit around.settings none) = r.turned 0 := by
    have hpage : r.page = 1 := by
      rw [← hr]
      show positiveOr 1 (params.lookup "page") = 1
      rw [unpaged]
      rfl
    rw [hr]
    show r = { r with page := ((0 : Nat) : Int) + 1 }
    rw [show ((0 : Nat) : Int) + 1 = r.page from hpage.symm]
  obtain ⟨envelopes, hwalk, hdata, _⟩ := p.walk_from (q := 0) hfirst (by omega)
  have hperm := sortRows_perm (rowKeys c r.sort) (state.database.matching c l r.conditions)
  refine ⟨envelopes, r.ordered state.database c l, hwalk, fun others hother => hother.unique hwalk,
    ?_, ?_, ?_, ?_⟩
  · intro row
    rw [ordered, hperm.mem_iff, Database.matching, List.mem_filter, List.all_eq_true]
    exact and_congr_right fun hrow => hwanted row hrow
  · refine (hperm.map _).nodup_iff.2 ?_
    exact (sound.ids_nodup k.mem_standard).sublist (List.filter_sublist.map _)
  · rw [hdata, hr, Nat.zero_mul, List.drop_zero]
  · have hcounted := (read_page sound.standing k
      (hr ▸ parse_plain c params _) hbounds).1
    rw [hr, run_count, hcounted, if_pos hfits, ordered_length]

/-- A selection beyond the bounds of statements finds nothing. -/
theorem found_of_exceeding {db : Database} (h : db.Standing) (k : Kept c l) {s : Selection}
    (hplain : ∀ cond ∈ s.conditions, cond.IsPlain) (hbounds : s.keepsBounds c = false) :
    db.found c s = .error .unavailable := by
  obtain ⟨clauses, hclauses⟩ := Condition.clauses?_of_plain (c := c) hplain
  rw [Selection.keepsBounds, hclauses, Option.all_some] at hbounds
  rw [Database.found, hclauses]
  dsimp only
  rw [select_eq h k fun clause hclause f hf => columnOf?_declared hclauses hclause hf, selected, hbounds,
    if_neg Bool.false_ne_true]

/-- Counting is refused for the bounds of statements alone if no integer has more than 64 bits. -/
theorem counted_of_fits {db : Database} (h : db.Standing) (k : Kept c l) {conditions : List Condition}
    (hplain : ∀ cond ∈ conditions, cond.IsPlain) (hfits : ∀ cond ∈ conditions, cond.FitsWord) :
    db.counted c conditions = .error .unavailable ∨ ∃ total, db.counted c conditions = .ok total := by
  obtain ⟨clauses, hclauses⟩ := Condition.clauses?_of_plain (c := c) hplain
  obtain ⟨tests, htests⟩ := (SucceedsIf.mapM fun cond hcond =>
    Condition.test_succeeds c l (hplain cond hcond)).1 hfits
  rw [Database.counted, hclauses]
  dsimp only
  rw [count_of_table (h.readableTable_eq k) k fun clause hclause f hf =>
    columnOf?_declared hclauses hclause hf, Condition.tests_eq hclauses, htests]
  split
  · exact .inr ⟨_, rfl⟩
  · exact .inl rfl

/-- A request beyond the bounds of statements is refused if nothing else is wrong with it. -/
theorem refused_of_exceeding (sound : state.database.Sound) (k : Kept c l)
    (hr : parse c params (defaultLimit around.settings none) = r)
    (hfits : ∀ cond ∈ r.conditions, cond.FitsWord)
    (hbounds : (r.selection related).keepsBounds c = false) :
    Service.run (answer c params related {}) around state = (.error .unavailable, state) := by
  have hplain : ∀ cond ∈ r.conditions, cond.IsPlain := hr ▸ parse_plain c params _
  have hfind : Service.run (({} : Store).find c
      { conditions := r.conditions, projection := r.fetched related, sort := r.sort, skip := r.skip,
        limit := some r.limit }) around state = (.error .unavailable, state) :=
    (run_find c (r.selection related)).trans
      (congrArg (·, state) (found_of_exceeding sound.standing k hplain hbounds))
  unfold answer
  rw [run_bind, run_read]
  dsimp only
  rw [hr]
  unfold ListRequest.run
  rw [run_bind, run_bind, run_count]
  rcases counted_of_fits sound.standing k hplain hfits with hcounted | ⟨total, hcounted⟩
  · rw [hcounted]
  · rw [hcounted]
    dsimp only
    rw [run_bind, hfind]

/-- A request that fails returns nothing. -/
theorem not_returns_of_error {failure : Failure} {after : State}
    (h : Service.run (answer c params related {}) around state = (.error failure, after)) :
    ¬ Returns around state c l related params wanted := by
  rintro ⟨envelopes, _, hwalk, _⟩
  cases hwalk with
  | last answered _ => exact nomatch h.symm.trans answered
  | next answered _ _ => exact nomatch h.symm.trans answered

/-- What a request is answered with that no row satisfies. -/
theorem answer_of_unmatched (sound : state.database.Sound) (listed : Listed c l related)
    (batched : around.Batched) (hr : parse c params (defaultLimit around.settings none) = r)
    (hfits : r.FitsWord) (hbounds : (r.selection related).keepsBounds c = true)
    (hnone : state.database.matching c l r.conditions = []) :
    ∃ envelope, Service.run (answer c params related {}) around state = (.ok envelope, state) ∧
      data envelope = [] := by
  have hanswer := run_answer sound listed batched hr hbounds
  rw [if_pos hfits] at hanswer
  have hpage : r.pageRows state.database c l = [] := by
    rw [pageRows, ordered, hnone, sortRows, List.mergeSort_nil]
    simp [window]
  refine ⟨_, hanswer, ?_⟩
  rw [data_envelope, answerPage, hpage]
  rfl

/-- A request that no row satisfies does not return the rows that are wanted if there is one. -/
theorem not_returns_of_unmatched (sound : state.database.Sound) (k : Kept c l)
    (hr : parse c params (defaultLimit around.settings none) = r)
    (hfits : ∀ cond ∈ r.conditions, cond.FitsWord)
    (hbounds : (r.selection related).keepsBounds c = true)
    (hnone : state.database.matching c l r.conditions = []) {row : Row}
    (hrow : row ∈ state.database.rows l.name) (hwanted : wanted row) :
    ¬ Returns around state c l related params wanted := by
  rintro ⟨_, rows, _, _, hrows, _, _, hcount⟩
  have hcounted := (read_page sound.standing k (hr ▸ parse_plain c params _) hbounds).1
  rw [hr, run_count, hcounted, if_pos hfits, hnone] at hcount
  have hempty : rows = [] := List.length_eq_zero_iff.1 (Except.ok.inj (Prod.mk.inj hcount).1).symm
  have hmem := (hrows row).2 ⟨hrow, hwanted⟩
  rw [hempty] at hmem
  exact nomatch hmem

/-- The walk through a list shows as many records as are counted. -/
theorem walk_of_returns (h : Returns around state c l related params wanted) {n : Nat}
    (hcount : (Service.run (({} : Store).count c
      (parse c params (defaultLimit around.settings none)).conditions) around state).1.toOption =
        some n) :
    ∃ envelopes, Walk around c related state params envelopes ∧ (envelopes.flatMap data).length = n := by
  obtain ⟨envelopes, rows, hwalk, _, _, _, hdata, hcounted⟩ := h
  rw [hcounted] at hcount
  refine ⟨envelopes, hwalk, ?_⟩
  rw [hdata, List.length_map]
  exact Option.some.inj hcount

/-! ## Filters -/

section Filters

variable {filters : List Filter} (k : Kept c l) (asks : params.Asks filters)
  (fits : ∀ f ∈ filters, f.Fits c) (n : Int)

include k asks fits

/-- The conditions of fitting filters are those of the filters, and none asks for too much. -/
theorem conditions_of_fits : (parse c params n).conditions.Perm (filters.map (Filter.condition c)) ∧
    ∀ cond ∈ (parse c params n).conditions, cond.FitsWord := by
  have hperm : (parse c params n).conditions.Perm (filters.map (Filter.condition c)) :=
    Parameters.conditions_of_asks asks (fun f hf => k.opening (fits f hf).visible) n
  refine ⟨hperm, fun cond hcond => ?_⟩
  obtain ⟨f, hf, rfl⟩ := List.mem_map.1 (hperm.mem_iff.1 hcond)
  exact fitsWord_of_fits (fits f hf)

/-- A row satisfies all conditions if and only if all filters accept it. -/
theorem holds_of_fits {row : Row} (hrow : row.Holds l) (hproper : row.Proper) :
    (∀ cond ∈ (parse c params n).conditions, Condition.holds c l row cond = true) ↔
      ∀ f ∈ filters, f.Accepts c (row.read (fieldReference f.field)) := by
  have hperm := (conditions_of_fits k asks fits n).1
  constructor
  · intro hall f hf
    exact (holds_condition k (fits f hf) hrow hproper).1
      (hall _ (hperm.mem_iff.2 (List.mem_map_of_mem hf)))
  · intro hall cond hcond
    obtain ⟨f, hf, rfl⟩ := List.mem_map.1 (hperm.mem_iff.1 hcond)
    exact (holds_condition k (fits f hf) hrow hproper).2 (hall f hf)

/-- Few filters with few values, in an order of few keys, keep within bounds. -/
theorem bounded_of_few (hfew : filters.length + 2 ≤ Nesting.greatestDepth)
    (hvalues : (filters.map fun f => f.items.length).sum + 2 ≤ Statement.greatestParameters)
    (hkeys : (parse c params n).sort.length < Statement.greatestWidth) :
    ((parse c params n).selection related).keepsBounds c = true := by
  have hperm := (conditions_of_fits k asks fits n).1
  have hitems : (fun cond : Condition => cond.operands.length) ∘ Filter.condition c =
      fun f : Filter => f.items.length := by
    funext f
    rw [Function.comp, f.operands_condition, Filter.operands, List.length_map]
  refine keepsBounds_of_few k (s := (parse c params n).selection related) (parse_plain c params n)
    ?_ ?_ hkeys
  · show (parse c params n).conditions.length + 2 ≤ _
    rwa [hperm.length_eq, List.length_map]
  · show ((parse c params n).conditions.map fun cond => cond.operands.length).sum + 2 ≤ _
    rwa [(hperm.map _).sum_eq, List.map_map, hitems]

/-- Many filters that list something exceed the bounds. -/
theorem exceeding_of_many (hmany : Nesting.greatestDepth ≤ filters.length)
    (hasking : ∀ f ∈ filters, f.items ≠ []) :
    ((parse c params n).selection related).keepsBounds c = false := by
  have hperm := (conditions_of_fits k asks fits n).1
  refine exceedsBounds_of_many (s := (parse c params n).selection related) (parse_plain c params n)
    ?_ ?_
  · intro cond hcond
    obtain ⟨f, hf, rfl⟩ := List.mem_map.1 (hperm.mem_iff.1 hcond)
    rw [f.operands_condition, Filter.operands]
    exact mt List.map_eq_nil_iff.1 (hasking f hf)
  · show _ ≤ (parse c params n).conditions.length
    rwa [hperm.length_eq, List.length_map]

end Filters

/-! ## Instants of creation -/

/-- A filter on the instant of creation. -/
def created (operator : Operator) (s : String) : Filter := ⟨"created_at", operator, s⟩

/-- A filter on the instant of creation compares with its text as it stands. -/
theorem conditions_created (k : Kept c l) {operator : Operator} (hone : operator ≠ .oneOf) {s : String}
    (asks : params.Asks [created operator s]) (n : Int) :
    (parse c params n).conditions = [⟨"created_at", operator, .text s⟩] := by
  obtain ⟨hvisible, hkind, _⟩ := k.created
  have hopening : ∀ f ∈ [created operator s], IsOpening f.field :=
    List.forall_mem_singleton.2 (k.opening hvisible)
  have hperm := Parameters.conditions_of_asks (c := c) asks hopening n
  have hcoerce : c.coerce "created_at" (.text s) = .text s := by
    unfold Collection.coerce
    rw [hkind]
    rfl
  have hcondition : (created operator s).condition c = ⟨"created_at", operator, .text s⟩ := by
    cases operator with
    | oneOf => exact absurd rfl hone
    | _ => exact congrArg (Condition.mk _ _) hcoerce
  rw [List.map_singleton, hcondition] at hperm
  exact List.perm_singleton.1 hperm

/-- In a database whose columns hold what they should, a filter on the instant of creation returns the
rows whose stamps it accepts. -/
theorem returns_of_created (sound : state.database.Sound) (holds : state.database.Holds)
    (listed : Listed c l related) {operator : Operator} (hone : operator ≠ .oneOf) {s : String}
    (asks : params.Asks [created operator s]) (batched : around.Batched)
    (unpaged : params.lookup "page" = none)
    (hr : parse c params (defaultLimit around.settings none) = r)
    (size : 0 < r.limit ∧ r.limit ≤ Number.greatestWord)
    (short : r.sort.length < Statement.greatestWidth) :
    Returns around state c l related params fun row =>
      ∃ stamp, row.cell "created_at" = .text stamp ∧ AcceptsStamp operator s stamp := by
  have k := listed.kept
  have hconditions : r.conditions = [⟨"created_at", operator, .text s⟩] :=
    hr ▸ conditions_created k hone asks _
  have hplain : ∀ cond ∈ r.conditions, cond.IsPlain := hr ▸ parse_plain c params _
  have hoperands : ∀ cond ∈ r.conditions, cond.operands = [.text s] := by
    rw [hconditions]
    exact List.forall_mem_singleton.2 rfl
  have hfits : ∀ cond ∈ r.conditions, cond.FitsWord := by
    intro cond hcond d hd i hi
    rw [hoperands cond hcond, List.mem_singleton, hi] at hd
    exact nomatch hd
  have hbounds : (r.selection related).keepsBounds c = true := by
    refine keepsBounds_of_few k (s := r.selection related) hplain ?_ ?_ short
    · show r.conditions.length + 2 ≤ _
      rw [hconditions]
      exact (by decide : 1 + 2 ≤ Nesting.greatestDepth)
    · show (r.conditions.map fun cond => cond.operands.length).sum + 2 ≤ _
      rw [List.map_congr_left fun cond hcond => congrArg List.length (hoperands cond hcond), hconditions]
      exact (by decide : 1 + 2 ≤ Statement.greatestParameters)
  refine returns_of_bounded sound listed batched unpaged hr size hfits hbounds fun row hrow => ?_
  obtain ⟨stamp, _, hcell, hiff⟩ := holds_dated k (holds l k.mem_standard row hrow) hone s
  rw [hconditions, List.forall_mem_singleton, hiff]
  constructor
  · exact fun haccepts => ⟨stamp, hcell, haccepts⟩
  · rintro ⟨other, hother, haccepts⟩
    cases hcell.symm.trans hother
    exact haccepts

end ListRequest

/-! ## Results -/

namespace Operation

/-- After every run, the walk through a list with filters on visible fields, but for the instant of
creation, that ask for values of the fields' kinds shows exactly the rows that every filter accepts, each
once, and counting counts them. That is so within the bounds of statements, and beyond them the request is
refused: few filters with few values, in an order of few keys, keep within bounds, and many filters exceed
them. -/
theorem filtered_of_run (requests : List (Surroundings × Operation)) (listed : Listed c l related)
    {filters : List Filter} (asks : params.Asks filters) (fits : ∀ f ∈ filters, f.Fits c)
    (batched : around.Batched) (unpaged : params.lookup "page" = none)
    (size : 0 < (parse c params (defaultLimit around.settings none)).limit ∧
      (parse c params (defaultLimit around.settings none)).limit ≤ Number.greatestWord) :
    let state := runAll .fresh requests
    let r := parse c params (defaultLimit around.settings none)
    ((r.selection related).keepsBounds c = true → Returns around state c l related params fun row =>
      ∀ f ∈ filters, f.Accepts c (row.read (fieldReference f.field))) ∧
    ((r.selection related).keepsBounds c = false →
      Service.run (answer c params related {}) around state = (.error .unavailable, state)) ∧
    (filters.length + 2 ≤ Nesting.greatestDepth →
      (filters.map fun f => f.items.length).sum + 2 ≤ Statement.greatestParameters →
      r.sort.length < Statement.greatestWidth → (r.selection related).keepsBounds c = true) ∧
    (Nesting.greatestDepth ≤ filters.length → (∀ f ∈ filters, f.items ≠ []) →
      (r.selection related).keepsBounds c = false) := by
  intro state r
  have k := listed.kept
  have sound : state.database.Sound := sound_run sound_fresh requests
  have holds : state.database.Holds := holds_run sound_fresh holds_fresh requests
  have hword := (conditions_of_fits k asks fits (defaultLimit around.settings none)).2
  refine ⟨fun hbounds => ?_, refused_of_exceeding sound k rfl hword,
    bounded_of_few k asks fits _, exceeding_of_many k asks fits _⟩
  exact returns_of_bounded sound listed batched unpaged rfl size hword hbounds fun row hrow =>
    holds_of_fits k asks fits _ (holds l k.mem_standard row hrow) (sound.row_proper k.mem_standard hrow)

/-- Courses that are dear and take four or eight weeks, one on a page. -/
def dearCourses : Parameters :=
  [("limit", .one "1"), ("tuition[gte]", .one "99.5"), ("weeks[in]", .one " 4, 8 ,")]

theorem filtered_of_priced :
    let filters : List Filter := [⟨"tuition", .gte, "99.5"⟩, ⟨"weeks", .oneOf, " 4, 8 ,"⟩]
    dearCourses.Asks filters ∧ (∀ f ∈ filters, f.Fits .courses) ∧ ∃ envelopes,
      Walk calm .courses (some .schoolSummary) (runAll .fresh priced) dearCourses envelopes ∧
      (envelopes.flatMap data).length = 1 := by
  intro filters
  have asks : dearCourses.Asks filters := .of_eq (by decide)
  have fits : ∀ f ∈ filters, f.Fits .courses := by decide +kernel
  obtain ⟨hreturns, _, hbounded, _⟩ := filtered_of_run priced .courses asks fits
    (show calm.Batched by decide) (by decide) (by decide)
  have hlisted := hreturns (hbounded (by decide) (by decide) (by decide))
  exact ⟨asks, fits, walk_of_returns hlisted (by decide +kernel)⟩

/-- One account, asked for a number of times. -/
def manyTimes (n : Nat) : Parameters := [("id[eq]", .many (List.replicate n "1"))]

def firstAccount : Filter := ⟨"id", .eq, "1"⟩

theorem asks_manyTimes (n : Nat) : (manyTimes n).Asks (List.replicate n firstAccount) := by
  refine .of_eq ?_
  rw [Parameters.filtering, manyTimes, List.flatMap_singleton, List.map_replicate]
  exact List.map_replicate

theorem fits_firstAccount {n : Nat} : ∀ f ∈ List.replicate n firstAccount, f.Fits .users := by
  intro f hf
  rw [List.eq_of_mem_replicate hf]
  decide

/-- A thousand filters that all accept an account are refused. -/
theorem refused_of_many :
    let filters := List.replicate 1000 firstAccount
    let state := runAll .fresh opening
    (manyTimes 1000).Asks filters ∧ (∀ f ∈ filters, f.Fits .users) ∧
      (∃ row ∈ state.database.rows "users",
        ∀ f ∈ filters, f.Accepts .users (row.read (fieldReference f.field))) ∧
      Service.run (answer .users (manyTimes 1000) none {}) calm state = (.error .unavailable, state) ∧
      ¬ Returns calm state .users .users none (manyTimes 1000) fun row =>
        ∀ f ∈ filters, f.Accepts .users (row.read (fieldReference f.field)) := by
  intro filters state
  have hwords := (conditions_of_fits .users (asks_manyTimes 1000) fits_firstAccount
    (defaultLimit calm.settings none)).2
  have hexceeding : ((parse .users (manyTimes 1000) (defaultLimit calm.settings none)).selection
      none).keepsBounds .users = false :=
    exceeding_of_many .users (asks_manyTimes 1000) fits_firstAccount _
      (by rw [List.length_replicate]; decide)
      fun f hf => by rw [List.eq_of_mem_replicate hf]; exact List.cons_ne_nil _ _
  have hrefused : Service.run (answer .users (manyTimes 1000) none {}) calm state =
      (.error .unavailable, state) :=
    refused_of_exceeding (sound_run sound_fresh opening) .users rfl hwords hexceeding
  refine ⟨asks_manyTimes 1000, fits_firstAccount, ?_, hrefused, not_returns_of_error hrefused⟩
  have hids : (state.database.rows "users").map (·.id) = [1] := by decide
  obtain ⟨row, hrow, hid⟩ := List.mem_map.1 (hids ▸ List.mem_singleton_self (1 : Int))
  refine ⟨row, hrow, fun f hf => ?_⟩
  rw [List.eq_of_mem_replicate hf]
  have hoperands : firstAccount.operands .users = [.int 1] := by rfl
  exact .inr ⟨.int 1, hoperands ▸ List.mem_singleton_self _,
    .number (congrArg (some ∘ Line.ofInt) hid) rfl rfl⟩

/-- After every run, each row holds a stamp as its instant of creation, and the walk through a list with
one filter on it shows exactly the rows whose stamps stand in the relation that is asked for to the text, if
that does not look like a number. A text that does is less than every stamp. -/
theorem dated_of_run (requests : List (Surroundings × Operation)) (listed : Listed c l related)
    {operator : Operator} (hone : operator ≠ .oneOf) {s : String}
    (asks : params.Asks [created operator s]) (batched : around.Batched)
    (unpaged : params.lookup "page" = none)
    (size : 0 < (parse c params (defaultLimit around.settings none)).limit ∧
      (parse c params (defaultLimit around.settings none)).limit ≤ Number.greatestWord)
    (short : (parse c params (defaultLimit around.settings none)).sort.length <
      Statement.greatestWidth) :
    let state := runAll .fresh requests
    (∀ row ∈ state.database.rows l.name, ∃ stamp, IsStamp stamp ∧
      row.cell "created_at" = .text stamp) ∧
    Returns around state c l related params fun row =>
      ∃ stamp, row.cell "created_at" = .text stamp ∧ AcceptsStamp operator s stamp := by
  intro state
  have sound : state.database.Sound := sound_run sound_fresh requests
  have holds : state.database.Holds := holds_run sound_fresh holds_fresh requests
  refine ⟨fun row hrow => ?_, ?_⟩
  · have k := listed.kept
    obtain ⟨stamp, hstamp, hcell, _⟩ := holds_dated k (holds l k.mem_standard row hrow) hone s
    exact ⟨stamp, hstamp, hcell⟩
  · exact returns_of_created sound holds listed hone asks batched unpaged rfl size short

/-- Accounts that are created on or after a day. -/
def sinceDay : Parameters := [("created_at[gte]", .one "0001-01-01")]

theorem dated_of_opening : sinceDay.Asks [created .gte "0001-01-01"] ∧ ∃ envelopes,
    Walk calm .users none (runAll .fresh opening) sinceDay envelopes ∧
    (envelopes.flatMap data).length = 1 := by
  have asks : sinceDay.Asks [created .gte "0001-01-01"] := .of_eq (by decide)
  obtain ⟨_, hreturns⟩ := dated_of_run opening (.plain .users) (by decide) asks
    (show calm.Batched by decide) (by decide) (by decide) (by decide)
  exact ⟨asks, walk_of_returns hreturns (by decide)⟩

/-- Accounts that are created before the end of a year. -/
def byYear : Parameters := [("created_at[lte]", .one "2025")]

/-- An account that is created before a year begins is not among those created by then. -/
theorem missed_by_year :
    let state := runAll .fresh opening
    byYear.Asks [created .lte "2025"] ∧
    (∃ row ∈ state.database.rows "users", ∃ stamp, row.cell "created_at" = .text stamp ∧
      Operator.lte.Relates stamp "2025") ∧
    (∃ envelope, Service.run (answer .users byYear none {}) calm state = (.ok envelope, state) ∧
      data envelope = []) ∧
    ¬ Returns calm state .users .users none byYear fun row =>
      ∃ stamp, row.cell "created_at" = .text stamp ∧ Operator.lte.Relates stamp "2025" := by
  intro state
  have sound : state.database.Sound := sound_run sound_fresh opening
  let r := parse .users byYear (defaultLimit calm.settings none)
  have hfits : r.FitsWord := by decide
  have hbounds : (r.selection none).keepsBounds .users = true := by decide
  have hnone : state.database.matching .users .users r.conditions = [] :=
    List.length_eq_zero_iff.1 (by decide)
  have hcells : (state.database.rows "users").map (·.cell "created_at") =
      [.text "0001-01-01T00:00:00.000000+00:00"] := by
    decide
  obtain ⟨row, hrow, hcell⟩ := List.mem_map.1 (hcells ▸ List.mem_singleton_self _)
  have hearly : Operator.lte.Relates "0001-01-01T00:00:00.000000+00:00" "2025" :=
    (by decide : "0001-01-01T00:00:00.000000+00:00" ≤ "2025")
  exact ⟨.of_eq (by decide), ⟨row, hrow, _, hcell, hearly⟩,
    answer_of_unmatched sound (.plain .users) (by decide) rfl hfits hbounds hnone,
    not_returns_of_unmatched sound .users rfl hfits.conditions hbounds hnone hrow
      ⟨_, hcell, hearly⟩⟩

end Operation
end SchoolCatalog
