import SchoolCatalog.Proofs.Calendar.Order
import SchoolCatalog.Proofs.Service.Dating
import SchoolCatalog.Proofs.Service.Walk

/-!
# Newest first

A list that is asked for without an order it can use is ordered by the instants at which its rows were
created, the latest first, and rows of one instant by their identities. The instant of a creation is
what the clock showed to the request that brought the identity in; nothing that happens later changes
what is stored of it, and the stored stamps compare like the instants, so that ordering by the stored
texts is ordering by the instants.

Results:
1. `exists_created`, `stamp_of_created`: each row was created at some instant, and holds its stamp.
2. `compare_created`: the stored texts compare like the instants.
3. `newest_first_of_run`: the order of a list without an order of its own, after every run.
-/

namespace SchoolCatalog

open Store Service ListRequest

namespace Operation

variable {requests : List (Surroundings × Operation)} {l : Layout} {id instant later : Int}

/-! ## Instants of creation -/

/-- The instant at which a run created a row: what the clock showed to the request that brought its
identity in. -/
def CreatedAt (requests : List (Surroundings × Operation)) (l : Layout) (id instant : Int) : Prop :=
  ∃ earlier request rest, requests = earlier ++ request :: rest ∧
    (∀ row ∈ (runAll .fresh earlier).database.rows l.name, row.id ≠ id) ∧
    (∃ row ∈ (step (runAll .fresh earlier) request).database.rows l.name, row.id = id) ∧
    instant = request.1.instant (runAll .fresh earlier).stamps

theorem CreatedAt.concat (h : CreatedAt requests l id instant) (request : Surroundings × Operation) :
    CreatedAt (requests ++ [request]) l id instant := by
  obtain ⟨earlier, first, rest, rfl, hcreated⟩ := h
  exact ⟨earlier, first, rest ++ [request], by simp, hcreated⟩

/-- Every row was created at some instant. -/
theorem exists_created (hl : l ∈ Layout.standard) {row : Row}
    (hrow : row ∈ (runAll .fresh requests).database.rows l.name) :
    ∃ instant, CreatedAt requests l row.id instant := by
  -- the last request brought the identity in, or it was there before that
  induction requests using List.reverseRecOn generalizing row with
  | nil => exact nomatch (rows_fresh hl ▸ hrow : row ∈ ([] : List Row))
  | append_singleton requests request ih =>
    by_cases hthere : ∃ before ∈ (runAll .fresh requests).database.rows l.name, before.id = row.id
    · obtain ⟨before, hbefore, hid⟩ := hthere
      obtain ⟨instant, hcreated⟩ := ih hbefore
      exact ⟨instant, hid ▸ hcreated.concat request⟩
    · rw [runAll_concat] at hrow
      exact ⟨_, requests, request, [], rfl, fun before hbefore hid => hthere ⟨before, hbefore, hid⟩,
        ⟨row, hrow, rfl⟩, rfl⟩

/-- A row holds the stamp of the instant at which it was created. -/
theorem stamp_of_created (hl : l ∈ Layout.standard) {row : Row}
    (hrow : row ∈ (runAll .fresh requests).database.rows l.name)
    (hcreated : CreatedAt requests l row.id instant) :
    ∃ stamp, stamp? instant = some stamp ∧ row.cell "created_at" = .text stamp := by
  obtain ⟨earlier, request, rest, rfl, hnew, ⟨first, hfirst, hid⟩, rfl⟩ := hcreated
  have hsound : (runAll .fresh earlier).database.Sound := sound_run sound_fresh earlier
  have hdated := dated_of_step hsound request
  rw [runAll, List.foldl_append, List.foldl_cons] at hrow
  have hhanded : row.id ≤ (step (runAll .fresh earlier) request).database.greatestHandedOut l.name :=
    hid ▸ (hdated.sound.numbered l hl first hfirst).2
  -- no later request gives the identity to another row
  obtain ⟨before, hbefore, hsame, hcell⟩ := date_kept hdated.sound rest hl hrow hhanded
  rcases hdated.dates l hl before hbefore with ⟨old, hold, hold', _⟩ | ⟨_, stamp, hstamp, hdate⟩
  · exact absurd (hold'.trans hsame) (hnew old hold)
  · exact ⟨stamp, hstamp, hcell.trans hdate⟩

/-- The stored texts of two rows compare like the instants at which they were created. -/
theorem compare_created (hl : l ∈ Layout.standard) {row other : Row}
    (hrow : row ∈ (runAll .fresh requests).database.rows l.name)
    (hother : other ∈ (runAll .fresh requests).database.rows l.name)
    (hcreated : CreatedAt requests l row.id instant) (hlater : CreatedAt requests l other.id later) :
    ((row.cell "created_at").compare (other.cell "created_at")).Compares instant later := by
  obtain ⟨s, hs, hcell⟩ := stamp_of_created hl hrow hcreated
  obtain ⟨t, ht, hcell'⟩ := stamp_of_created hl hother hlater
  rw [hcell, hcell']
  exact compare_stamps hs ht

/-! ## Lists without an order of their own -/

/-- Parameters that ask for no order by a field which the collection has. -/
def Unsorted (c : Collection) (params : Parameters) : Prop :=
  ∀ p, params.lookup "sort" = some p →
    ∀ piece ∈ splitList p.last, c.hasField (SortKey.parse piece).field = false

theorem sort_of_unsorted {c : Collection} {params : Parameters} (h : Unsorted c params) (n : Int) :
    (parse c params n).sort = c.defaultSort := by
  unfold parse
  dsimp only
  cases hsort : params.lookup "sort" with
  | none => rfl
  | some p =>
    have hnone : ((splitList p.last).map SortKey.parse).filter (fun key => c.hasField key.field) = [] := by
      rw [List.filter_eq_nil_iff]
      intro key hkey
      obtain ⟨piece, hpiece, rfl⟩ := List.mem_map.1 hkey
      exact Bool.not_eq_true _ ▸ h p hsort piece hpiece
    exact if_pos (List.isEmpty_iff.2 hnone)

theorem precedes_default {c : Collection} (k : Kept c l) {x y : Row} :
    Precedes x y c.defaultSort ↔
      (x.cell "created_at").compare (y.cell "created_at") = .gt ∨
        (x.cell "created_at").compare (y.cell "created_at") = .eq ∧ x.id < y.id := by
  cases k <;> rfl

/-- After every run, a list that is asked for without an order it can use shows its rows by the instants
at which they were created, the latest first, and those of one instant by their identities: every row
was created at some instant, the stored texts compare like these instants, and an answer is one window
of the rows that match in that order. A request within the bounds of statements whose numbers have 64
bits is answered. -/
theorem newest_first_of_run (requests : List (Surroundings × Operation)) {c : Collection} {l : Layout}
    {related : Option Include} (listed : Listed c l related) (params : Parameters)
    (unsorted : Unsorted c params) {around : Surroundings} (batched : around.Batched) :
    let db := (runAll .fresh requests).database
    let r := parse c params (defaultLimit around.settings none)
    let answered := (Service.run (answer c params related {}) around (runAll .fresh requests)).1
    (∀ row ∈ db.rows l.name, ∃ instant, CreatedAt requests l row.id instant) ∧
    (∀ row ∈ db.rows l.name, ∀ other ∈ db.rows l.name, ∀ instant later,
      CreatedAt requests l row.id instant → CreatedAt requests l other.id later →
      ((row.cell "created_at").compare (other.cell "created_at")).Compares instant later) ∧
    ((r.selection related).keepsBounds c = true → r.FitsWord → ∃ envelope, answered = .ok envelope) ∧
    ∀ envelope, answered = .ok envelope → ∃ rows : List Row, rows.Perm (db.matching c l r.conditions) ∧
      data envelope = (window r.skip (some (min r.limit Number.greatestWord)) rows).map
        (fun row => .dict (r.present db c l related row)) ∧
      rows.Pairwise fun row next => ∀ instant other, CreatedAt requests l row.id instant →
        CreatedAt requests l next.id other → other < instant ∨ other = instant ∧ row.id < next.id := by
  intro db r answered
  have k := listed.kept
  have hl := k.mem_standard
  have hsound : db.Sound := sound_run sound_fresh requests
  refine ⟨fun row hrow => exists_created hl hrow, ?_, ?_, ?_⟩
  · exact fun row hrow other hother instant later => compare_created hl hrow hother
  · intro hbounds hfits
    have hanswer := congrArg Prod.fst (run_answer hsound listed batched (r := r) rfl hbounds)
    rw [if_pos hfits] at hanswer
    exact ⟨_, hanswer⟩
  · intro envelope hanswered
    obtain ⟨_, _, rfl⟩ := answered_spec (r := r) hsound listed batched rfl hanswered
    obtain ⟨hperm, hprecedes⟩ :=
      ordered_spec (r := r) hsound k (parse_sort (defaultSort_declared k) params _)
    have hmem : ∀ row ∈ r.ordered db c l, row ∈ db.rows l.name :=
      fun row hrow => (List.mem_filter.1 (hperm.mem_iff.1 hrow)).1
    refine ⟨r.ordered db c l, hperm, ?_, ?_⟩
    · rw [data_envelope, answerPage, List.map_map]
      rfl
    · refine hprecedes.imp_of_mem fun {row next} hrow hnext hbefore instant other hcreated hother => ?_
      have hcompares := compare_created hl (hmem _ hrow) (hmem _ hnext) hcreated hother
      rw [show r.sort = c.defaultSort from sort_of_unsorted unsorted _, precedes_default k] at hbefore
      rcases hbefore with hgreater | ⟨hsame, hid⟩
      · rw [hgreater] at hcompares
        exact .inl hcompares
      · rw [hsame] at hcompares
        exact .inr ⟨hcompares.symm, hid⟩

/-- A list that is asked for by a field that schools do not have. -/
def byRank : Parameters := [("sort", .one "rank")]

theorem newest_first_of_paired : Unsorted .schools byRank ∧ calm.Batched ∧
    CreatedAt paired .schools 1 1 ∧ CreatedAt paired .schools 2 2 ∧
    let db := (runAll .fresh paired).database
    let r := parse .schools byRank (defaultLimit calm.settings none)
    ∃ envelope, (Service.run (answer .schools byRank (some .schoolCourses) {}) calm
        (runAll .fresh paired)).1 = .ok envelope ∧
      ∃ rows : List Row, rows.map (·.id) = [2, 1] ∧
        data envelope = (window r.skip (some (min r.limit Number.greatestWord)) rows).map
          (fun row => .dict (r.present db .schools .schools (some .schoolCourses) row)) := by
  have unsorted : Unsorted .schools byRank := by
    rintro p hp
    cases hp
    decide
  have batched : calm.Batched := by decide
  have hfirst : CreatedAt paired .schools 1 1 := by
    refine ⟨paired.take 1, paired[1], paired.drop 2, rfl, ?_⟩
    decide +kernel
  have hsecond : CreatedAt paired .schools 2 2 := by
    refine ⟨paired.take 2, paired[2], [], rfl, ?_⟩
    decide +kernel
  obtain ⟨_, _, hanswers, horder⟩ := newest_first_of_run paired .schools byRank unsorted batched
  obtain ⟨envelope, hanswered⟩ := hanswers (by decide) (by decide)
  obtain ⟨rows, hperm, hdata, hnewest⟩ := horder envelope hanswered
  refine ⟨unsorted, batched, hfirst, hsecond, envelope, hanswered, rows, ?_, hdata⟩
  have hmatching : ((runAll .fresh paired).database.matching .schools .schools
      (parse .schools byRank (defaultLimit calm.settings none)).conditions).map (·.id) = [1, 2] := by
    decide +kernel
  have hids : (rows.map (·.id)).Perm [1, 2] := hmatching ▸ hperm.map (·.id)
  obtain ⟨x, y, rfl⟩ := List.length_eq_two.1 ((List.length_map _).symm.trans hids.length_eq)
  have hdistinct : x.id ≠ y.id := by
    simpa using hids.nodup_iff.2 (by decide)
  have hx : x.id = 1 ∨ x.id = 2 := by
    simpa using hids.subset (List.mem_cons_self ..)
  have hy : y.id = 1 ∨ y.id = 2 := by
    simpa using hids.subset (List.mem_cons_of_mem _ (List.mem_cons_self ..))
  have hlatest := List.rel_of_pairwise_cons hnewest (List.mem_singleton_self y)
  rcases hx with hx | hx <;> rcases hy with hy | hy
  · exact absurd (hx.trans hy.symm) hdistinct
  · have hearly := hlatest 1 2 (hx ▸ hfirst) (hy ▸ hsecond)
    omega
  · simp [hx, hy]
  · exact absurd (hx.trans hy.symm) hdistinct

end Operation

end SchoolCatalog
