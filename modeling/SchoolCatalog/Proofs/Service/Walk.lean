import SchoolCatalog.Proofs.Service.Listing

/-!
# Walking through the pages of a list

A client asks for a list without naming a page and follows the link to the next page from answer to
answer, writing the page and limit of the link over its parameters. In a sound database the walk ends,
and its pages are consecutive pieces of the rows that match, in order: nothing is lost or repeated at
the edge of a page or among rows that the requested order does not tell apart.

Results:
1. `answered_page`: what a page shows and where its links go.
2. `Walk.unique`: the parameters that a walk starts with decide where it goes.
3. `walk_from`: the walk from any page on.
4. `walk_lists_all`: the walk from the first page lists the records of all rows that match, in order.
-/

namespace SchoolCatalog

open Store Service ListRequest

/-! ## Reading answers -/

/-- The records of an answer. -/
def data (envelope : Record) : List Datum :=
  match Record.field envelope "data" with
  | .list items => items
  | _ => []

/-- The link of a name in an answer. -/
def link? (envelope : Record) (name : String) : Option PageLink :=
  match Record.field envelope "pagination" with
  | .dict links => match Record.field links name with
    | .dict link => match Record.field link "page", Record.field link "limit" with
      | .int page, .int limit => some ⟨page, limit⟩
      | _, _ => none
    | _ => none
  | _ => none

theorem data_envelope (p : ResultPage) : data p.envelope = p.records.map .dict := rfl

theorem next_envelope (p : ResultPage) : link? p.envelope "next" = p.pagination.next := by
  have hfield : Record.field p.envelope "pagination" = ResultPage.paginationDatum p.pagination := rfl
  rw [link?, hfield, ResultPage.paginationDatum]
  cases p.pagination.next with
  | none => cases p.pagination.prev <;> rfl
  | some link => rfl

theorem prev_envelope (p : ResultPage) : link? p.envelope "prev" = p.pagination.prev := by
  have hfield : Record.field p.envelope "pagination" = ResultPage.paginationDatum p.pagination := rfl
  rw [link?, hfield, ResultPage.paginationDatum]
  cases p.pagination.next with
  | none => cases p.pagination.prev <;> rfl
  | some link => cases p.pagination.prev <;> rfl

/-! ## Walks -/

/-- The answers that a client gets that follows the link to the next page as long as there is one. -/
inductive Walk (around : Surroundings) (c : Collection) (related : Option Include) :
    State → Parameters → List Record → Prop
  | last {state after : State} {params : Parameters} {envelope : Record}
      (answered : Service.run (answer c params related {}) around state = (.ok envelope, after))
      (ends : link? envelope "next" = none) : Walk around c related state params [envelope]
  | next {state after : State} {params : Parameters} {envelope : Record} {link : PageLink}
      {envelopes : List Record}
      (answered : Service.run (answer c params related {}) around state = (.ok envelope, after))
      (goes : link? envelope "next" = some link)
      (rest : Walk around c related after (params.follow link) envelopes) :
      Walk around c related state params (envelope :: envelopes)

variable {around : Surroundings} {c : Collection} {l : Layout} {related : Option Include}
  {state : State} {params : Parameters} {r : ListRequest}

theorem Walk.ne_nil {envelopes : List Record} (h : Walk around c related state params envelopes) :
    envelopes ≠ [] := by
  cases h <;> exact List.cons_ne_nil _ _

/-- The parameters that a walk starts with decide where it goes. -/
theorem Walk.unique {envelopes others : List Record}
    (h : Walk around c related state params envelopes)
    (h' : Walk around c related state params others) : envelopes = others := by
  induction h generalizing others with
  | last answered ends =>
    cases h' with
    | last answered' _ =>
      cases answered.symm.trans answered'
      rfl
    | next answered' goes _ =>
      cases answered.symm.trans answered'
      exact nomatch ends.symm.trans goes
  | next answered goes _ ih =>
    cases h' with
    | last answered' ends =>
      cases answered.symm.trans answered'
      exact nomatch goes.symm.trans ends
    | next answered' goes' rest' =>
      cases answered.symm.trans answered'
      cases goes.symm.trans goes'
      rw [ih rest']

/-! ## Pages -/

namespace ListRequest

/-- The request for the page that comes after a number of others. -/
def turned (r : ListRequest) (q : Nat) : ListRequest := { r with page := q + 1 }

/-- What it takes for every page of a request to be answered, with pages of `n` records. -/
structure Paged (r : ListRequest) (around : Surroundings) (state : State) (c : Collection)
    (l : Layout) (related : Option Include) (n : Nat) : Prop where
  sound : state.database.Sound
  listed : Listed c l related
  batched : around.Batched
  bounded : (r.selection related).keepsBounds c = true
  fits : ∀ cond ∈ r.conditions, cond.FitsWord
  positive : 0 < n
  most : n ≤ Number.greatestWord
  limit : r.limit = n

variable {n q : Nat}

theorem ordered_length (db : Database) :
    (r.ordered db c l).length = (db.matching c l r.conditions).length :=
  (sortRows_perm _ _).length_eq

theorem Paged.ordered_le (p : r.Paged around state c l related n) :
    (r.ordered state.database c l).length ≤ 2 ^ 63 - 1 := by
  rw [ordered_length]
  exact Nat.le_trans (List.length_filter_le ..) (p.sound.rows_length p.listed.kept.mem_standard)

theorem Paged.skip_turned (p : r.Paged around state c l related n)
    (hq : q * n ≤ (r.ordered state.database c l).length) : (r.turned q).skip = (q * n : Nat) := by
  -- a page that is reached skips no more rows than there are
  have hmost : ((q * n : Nat) : Int) ≤ Number.greatestWord := by
    have := p.ordered_le
    have hword : Number.greatestWord = 2 ^ 63 - 1 := rfl
    omega
  have hproduct : ((r.turned q).page - 1) * (r.turned q).limit = (q * n : Nat) := by
    show ((q : Int) + 1 - 1) * r.limit = _
    rw [p.limit, Int.add_sub_cancel, Int.natCast_mul]
  rw [skip, hproduct]
  exact Int.min_eq_left hmost

theorem Paged.pageRows_turned (p : r.Paged around state c l related n)
    (hq : q * n ≤ (r.ordered state.database c l).length) :
    (r.turned q).pageRows state.database c l =
      ((r.ordered state.database c l).drop (q * n)).take n := by
  have hlimit : min (r.turned q).limit Number.greatestWord = n := by
    show min r.limit Number.greatestWord = n
    rw [p.limit]
    exact Int.min_eq_left p.most
  rw [pageRows, p.skip_turned hq, hlimit, window,
    if_neg (Int.not_lt.2 (Int.natCast_nonneg n)), Int.toNat_natCast, Int.toNat_natCast]
  rfl

theorem Paged.fits_turned (p : r.Paged around state c l related n)
    (hq : q * n ≤ (r.ordered state.database c l).length) : (r.turned q).FitsWord := by
  refine ⟨p.fits, ?_, ?_⟩
  · rw [p.skip_turned hq]
    exact Int.le_trans (by decide) (Int.natCast_nonneg _)
  · show Number.leastWord ≤ r.limit
    rw [p.limit]
    exact Int.le_trans (by decide) (Int.natCast_nonneg _)

/-- What a page shows and where its links go. -/
theorem Paged.answered_page (p : r.Paged around state c l related n)
    (hr : parse c params (defaultLimit around.settings none) = r.turned q)
    (hq : q * n ≤ (r.ordered state.database c l).length) :
    ∃ envelope, Service.run (answer c params related {}) around state = (.ok envelope, state) ∧
      data envelope = (((r.ordered state.database c l).drop (q * n)).take n).map
        (fun row => .dict (r.present state.database c l related row)) ∧
      link? envelope "next" = (if (q + 1) * n < (r.ordered state.database c l).length then
        some ⟨((q + 1 : Nat) : Int) + 1, n⟩ else none) ∧
      link? envelope "prev" = if q = 0 then none else some ⟨q, n⟩ := by
  have hanswer := run_answer (c := c) p.sound p.listed p.batched hr p.bounded
  rw [if_pos (p.fits_turned hq)] at hanswer
  refine ⟨_, hanswer, ?_, ?_, ?_⟩
  · rw [data_envelope, answerPage, p.pageRows_turned hq, List.map_map]
    rfl
  · rw [next_envelope]
    show (if ((q : Int) + 1) * r.limit < ((state.database.matching c l r.conditions).length : Int) then
      some (⟨(q : Int) + 1 + 1, r.limit⟩ : PageLink) else none) = _
    rw [p.limit, ← ordered_length]
    have hcast : ((q : Int) + 1) * n = ((q + 1) * n : Nat) := by
      rw [Int.natCast_mul]
      rfl
    rw [hcast]
    by_cases hmore : (q + 1) * n < (r.ordered state.database c l).length
    · rw [if_pos hmore, if_pos (Int.ofNat_lt.2 hmore)]
      rfl
    · rw [if_neg hmore, if_neg fun hlt => hmore (Int.ofNat_lt.1 hlt)]
  · rw [prev_envelope]
    show (if 1 < (q : Int) + 1 then some (⟨(q : Int) + 1 - 1, r.limit⟩ : PageLink) else none) = _
    rw [p.limit, Int.add_sub_cancel]
    by_cases hfirst : q = 0
    · rw [if_pos hfirst, if_neg (by omega)]
    · rw [if_neg hfirst, if_pos (by omega)]

/-- Following the link to the next page asks for that page. -/
theorem Paged.parse_follow_turned (p : r.Paged around state c l related n)
    (hr : parse c params (defaultLimit around.settings none) = r.turned q)
    (hmore : (q + 1) * n < (r.ordered state.database c l).length) :
    parse c (params.follow ⟨((q + 1 : Nat) : Int) + 1, n⟩) (defaultLimit around.settings none) =
      r.turned (q + 1) := by
  -- there are no more pages than rows, so that the number of the page can be read back
  have hpage : ((q + 1 : Nat) : Int) + 1 ≤ Number.greatestWord := by
    have hfew := p.ordered_le
    have hpages : q + 1 ≤ (q + 1) * n := Nat.le_mul_of_pos_right _ p.positive
    have hword : Number.greatestWord = 2 ^ 63 - 1 := rfl
    omega
  have hlater : (0 : Int) < ((q + 1 : Nat) : Int) + 1 := by
    omega
  have hpositive : (0 : Int) < n := Int.natCast_pos.2 p.positive
  have hfollow := parse_follow c params (defaultLimit around.settings none)
    ⟨((q + 1 : Nat) : Int) + 1, n⟩ ⟨hlater, hpage⟩ ⟨hpositive, p.most⟩
  rw [hfollow, hr]
  show ({ r with page := ((q + 1 : Nat) : Int) + 1, limit := (n : Int) } : ListRequest) = r.turned (q + 1)
  rw [← p.limit]
  rfl

/-- The walk from any page on shows the rows from there on, in full pages but for the last. -/
theorem Paged.walk_from (p : r.Paged around state c l related n) {q : Nat}
    (hr : parse c params (defaultLimit around.settings none) = r.turned q)
    (hq : q * n ≤ (r.ordered state.database c l).length) :
    ∃ envelopes, Walk around c related state params envelopes ∧
      envelopes.flatMap data = ((r.ordered state.database c l).drop (q * n)).map
        (fun row => .dict (r.present state.database c l related row)) ∧
      (∀ envelope ∈ envelopes.dropLast, (data envelope).length = n) ∧
      ∀ i, ∀ hi : i < envelopes.length, link? envelopes[i] "prev" =
        if q + i = 0 then none else some ⟨(q + i : Nat), n⟩ := by
  -- each page leaves fewer rows to come
  induction hleft : (r.ordered state.database c l).length - q * n using Nat.strongRecOn
    generalizing q params with
  | ind left ih =>
    subst hleft
    obtain ⟨envelope, hanswered, hdata, hnext, hprev⟩ := p.answered_page hr hq
    have hproduct : (q + 1) * n = q * n + n := Nat.succ_mul q n
    by_cases hmore : (q + 1) * n < (r.ordered state.database c l).length
    · rw [if_pos hmore] at hnext
      have hparse : parse c (params.follow ⟨((q + 1 : Nat) : Int) + 1, n⟩)
          (defaultLimit around.settings none) = r.turned (q + 1) := p.parse_follow_turned hr hmore
      have hfewer : (r.ordered state.database c l).length - (q + 1) * n <
          (r.ordered state.database c l).length - q * n := by
        have := p.positive
        omega
      obtain ⟨rest, hwalk, hflat, hfull, hlinks⟩ :=
        ih _ hfewer hparse (Nat.le_of_lt hmore) rfl
      refine ⟨envelope :: rest, .next hanswered hnext hwalk, ?_, ?_, ?_⟩
      · rw [List.flatMap_cons, hdata, hflat, ← List.map_append, hproduct, ← List.drop_drop,
          List.take_append_drop]
      · intro e he
        rw [List.dropLast_cons_of_ne_nil hwalk.ne_nil] at he
        rcases List.mem_cons.1 he with rfl | he
        · rw [hdata, List.length_map, List.length_take, List.length_drop]
          omega
        · exact hfull e he
      · intro i hi
        cases i with
        | zero => exact hprev
        | succ i =>
          have hlink := hlinks i (Nat.lt_of_succ_lt_succ hi)
          rw [Nat.add_right_comm, Nat.add_assoc] at hlink
          exact hlink
    · rw [if_neg hmore] at hnext
      refine ⟨[envelope], .last hanswered hnext, ?_, ?_, ?_⟩
      · rw [List.flatMap_singleton, hdata, List.take_of_length_le]
        rw [List.length_drop]
        omega
      · exact fun e he => nomatch he
      · intro i hi
        obtain rfl : i = 0 := Nat.lt_one_iff.1 hi
        exact hprev

/-! ## Results -/

/-- Two schools and a list of them in pages of one. -/
def paired : List (Surroundings × Operation) :=
  Operation.opening ++ [(Operation.calm, .createSchool
    ⟨"Modern", "Another school", none, none, none, .proper "2 Main St"⟩ Operation.admin)]

def onePage : Parameters := [("limit", .one "1")]

/-- In a sound database, the walk through a list that is asked for without a page, and answered, ends.
Its pages show the records of exactly the rows that match, each once, in the order that is asked for;
every page but the last is full, and the link back of each later page names the page before it. -/
theorem walk_lists_all (sound : state.database.Sound) (listed : Listed c l related)
    (batched : around.Batched) (unpaged : params.lookup "page" = none)
    (answered : ∃ envelope,
      (Service.run (answer c params related {}) around state).1 = .ok envelope)
    (size : 0 < (parse c params (defaultLimit around.settings none)).limit ∧
      (parse c params (defaultLimit around.settings none)).limit ≤ Number.greatestWord) :
    let r := parse c params (defaultLimit around.settings none)
    ∃ envelopes, Walk around c related state params envelopes ∧
      (∀ others, Walk around c related state params others → others = envelopes) ∧
      ∃ rows : List Row, rows.Perm (state.database.matching c l r.conditions) ∧
        (rows.map (·.id)).Nodup ∧ rows.Pairwise (Precedes · · r.sort) ∧
        envelopes.flatMap data =
          rows.map (fun row => .dict (r.present state.database c l related row)) ∧
        (∀ envelope ∈ envelopes.dropLast, ((data envelope).length : Int) = r.limit) ∧
        ∀ i, ∀ hi : i < envelopes.length, link? envelopes[i] "prev" =
          if i = 0 then none else some ⟨i, r.limit⟩ := by
  intro r
  have k := listed.kept
  obtain ⟨envelope, hanswered⟩ := answered
  obtain ⟨hbounds, hfits, _⟩ := answered_spec (r := r) sound listed batched rfl hanswered
  obtain ⟨n, hn⟩ := Int.eq_ofNat_of_zero_le (Int.le_of_lt size.1)
  have p : r.Paged around state c l related n :=
    ⟨sound, listed, batched, hbounds, hfits.conditions, by omega, hn ▸ size.2, hn⟩
  have hfirst : r = r.turned 0 := by
    have hpage : r.page = 1 := by
      show positiveOr 1 (params.lookup "page") = 1
      rw [unpaged]
      rfl
    show r = { r with page := ((0 : Nat) : Int) + 1 }
    rw [show ((0 : Nat) : Int) + 1 = r.page from hpage.symm]
  obtain ⟨envelopes, hwalk, hdata, hfull, hprev⟩ := p.walk_from (q := 0) hfirst (by omega)
  have hids : ((state.database.matching c l r.conditions).map (·.id)).Nodup :=
    (sound.ids_nodup k.mem_standard).sublist (List.filter_sublist.map _)
  obtain ⟨hperm, hprecedes⟩ :=
    ordered_spec (r := r) sound k (parse_sort (defaultSort_declared k) params _)
  refine ⟨envelopes, hwalk, fun others hother => hother.unique hwalk, r.ordered state.database c l,
    hperm, (hperm.map _).nodup_iff.2 hids, hprecedes, ?_, ?_, ?_⟩
  · rw [hdata, Nat.zero_mul, List.drop_zero]
  · intro e he
    rw [hfull e he, hn]
  · intro i hi
    rw [hprev i hi, Nat.zero_add, hn]

theorem walk_of_paired : Operation.Working paired ∧ ∃ envelopes,
    Walk Operation.calm .schools (some .schoolCourses) (Operation.runAll .fresh paired) onePage
      envelopes ∧
    (envelopes.flatMap data).length = 2 := by
  have working : Operation.Working paired := by decide
  have hsound := (Operation.current_run working).sound
  have batched : Operation.calm.Batched := by decide
  have hfits : (parse .schools onePage (defaultLimit Operation.calm.settings none)).FitsWord := by
    decide
  have hanswer := run_answer hsound .schools batched
    (r := parse .schools onePage (defaultLimit Operation.calm.settings none)) rfl (by decide)
  rw [if_pos hfits] at hanswer
  obtain ⟨envelopes, hwalk, _, rows, hperm, _, _, hdata, _⟩ :=
    walk_lists_all hsound .schools batched (show onePage.lookup "page" = none by decide)
      ⟨_, congrArg Prod.fst hanswer⟩ (by decide)
  have hmatching : ((Operation.runAll .fresh paired).database.matching .schools .schools
      (parse .schools onePage (defaultLimit Operation.calm.settings none)).conditions).length = 2 := by
    decide +kernel
  refine ⟨working, envelopes, hwalk, ?_⟩
  rw [hdata, List.length_map, hperm.length_eq, hmatching]

end ListRequest
end SchoolCatalog
