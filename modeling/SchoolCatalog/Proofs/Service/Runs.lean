import Mathlib.Data.List.Induction
import SchoolCatalog.Proofs.Number.Mean
import SchoolCatalog.Proofs.Service.Steps

/-!
# Averages over runs

What schools hold after any run of operations on a store that loses no updates, started on a database that
was just set up. The operations, their callers and what they are given are arbitrary, and so are their
surroundings; an operation that fails counts as a step like any other.

Results:
1. `current_run`: averages are current after every run.
2. `rating_of_run`: a school with reviews holds the mean of their ratings; a step that leaves it without
   reviews changes nothing, and a school that never had one holds nothing.
3. `cost_of_run`: a school holds the rounded mean of the tuitions of its courses if and only if that
   exists and has 64 bits, and a step after which it does not changes nothing.
4. `cost_outgrown`: a course whose tuition becomes 10^20 leaves its school with the average from before.
-/

namespace SchoolCatalog

open Store Store.Database

/-! ## Ratings -/

namespace Store.Database.Sound

variable {db : Database} {l : Layout}

/-- A table never holds more rows than there are identities. -/
theorem rows_length (h : db.Sound) (hl : l ∈ Layout.standard) :
    (db.rows l.name).length ≤ 2 ^ 63 - 1 := by
  have hids : ∀ rows : List Row, rows.Pairwise (·.id < ·.id) → ∀ least : Int,
      (∀ row ∈ rows, least < row.id ∧ row.id ≤ Number.greatestWord) →
      rows ≠ [] → rows.length ≤ Number.greatestWord - least := by
    -- each row has an identity of its own above those before it
    intro rows
    induction rows with
    | nil => exact fun _ _ _ hne => absurd rfl hne
    | cons row rest ih =>
      intro hordered least hbounds _
      obtain ⟨hfirst, hrest⟩ := List.pairwise_cons.1 hordered
      have hrow := hbounds row (List.mem_cons_self ..)
      cases rest with
      | nil =>
        simp only [List.length_cons, List.length_nil]
        omega
      | cons next rest =>
        have := ih hrest row.id (fun r hr => ⟨hfirst r hr, (hbounds r (List.mem_cons_of_mem _ hr)).2⟩)
          (List.cons_ne_nil _ _)
        simp only [List.length_cons] at this ⊢
        omega
  by_cases hempty : db.rows l.name = []
  · rw [hempty]
    exact Nat.zero_le _
  · have := hids _ (h.ordered l hl) 0 (fun row hrow => h.isIdentity hl hrow) hempty
    have hmost : Number.greatestWord = 2 ^ 63 - 1 := rfl
    omega

end Store.Database.Sound

namespace Aggregate

variable {db : Database} {s : Int}

theorem rating_between (h : db.Sound) {row : Row} (hrow : row ∈ db.rows "reviews") {i : Int}
    (hi : row.cell "rating" = .int i) : 0 < i ∧ i ≤ 10 := by
  have hchecked : ∃ col ∈ Layout.reviews.columns, col.name = "rating" ∧
      col.check = some (.between 1 10) :=
    ⟨{ Layout.must "rating" .integer with check := some (.between 1 10) }, by simp [Layout.reviews], rfl,
      rfl⟩
  obtain ⟨col, hcol, hname, hcheck⟩ := hchecked
  have hholds := (h.fits _ Kept.reviews.mem_standard row hrow).checked col hcol _ hcheck
  rw [hname, hi] at hholds
  simp only [Check.holds, Cell.isNull, Bool.false_or, Bool.and_eq_true, decide_eq_true_eq] at hholds
  have hleast : Ord.compare i 1 ≠ .lt := hholds.1
  have hmost : Ord.compare i 10 ≠ .gt := hholds.2
  rw [Int.compare_ne_gt] at hmost
  rw [Int.compare_ne_lt] at hleast
  omega

theorem toReal_small {i : Int} (hi : 0 < i ∧ i ≤ 10) :
    (Datum.int i).toReal = .ok (Binary64.ofInt i) := by
  have hfinite : (Binary64.ofInt i).isFinite = true := by
    rw [Binary64.ofInt_of_small (Int.le_of_lt hi.1) (Int.le_trans hi.2 (by decide)),
      Binary64.isFinite]
  rw [Datum.toReal, Datum.toNumber, Binary64.ofInt?, if_pos hfinite, Option.elim_some]
  · rintro _ ⟨⟩
  · rintro _ ⟨⟩

/-- Numbers like ratings have a mean that needs no rounding. -/
theorem meanOf_small {ratings : List Int} (hne : ratings ≠ []) (hratings : ∀ i ∈ ratings, 0 < i ∧ i ≤ 10)
    (hlength : ratings.length < 2 ^ 63) :
    ∃ mean, meanOf (ratings.map Datum.int) = .ok (some mean) ∧ mean.Rounded := by
  obtain ⟨mean, hmean, hrounded⟩ := Number.mean_of_small hne hratings hlength
  have hnumbers : (ratings.map Datum.int).mapM Datum.toReal = .ok (ratings.map Binary64.ofInt) := by
    clear hmean hne hlength
    induction ratings with
    | nil => rfl
    | cons i rest ih =>
      exact mapM_cons_ok (toReal_small (hratings i (List.mem_cons_self ..)))
        (ih fun j hj => hratings j (List.mem_cons_of_mem i hj))
  refine ⟨mean, ?_, hrounded⟩
  rw [meanOf, hnumbers]
  dsimp only
  rw [hmean]
  rfl

/-- A rating average that needs no rounding is stored as it is. -/
theorem kept?_of_rounded {values : List Datum} {mean : Binary64} (hmean : meanOf values = .ok (some mean))
    (hrounded : mean.Rounded) : rating.kept? values = some (.real mean) := by
  have haverage : rating.average values = .ok (some (.real mean)) := by
    rw [average, hmean]
    rfl
  have hbind : Cell.bind (.real mean) = .ok (.real mean) := by
    rw [Cell.bind, hrounded.isNaN]
    rfl
  rw [kept?, haverage]
  dsimp only
  rw [hbind]
  exact congrArg some (Affinity.store_rounded hrounded)

/-- The mean of ratings exists and is stored as it is. -/
theorem rating_kept_of_whole (h : db.Sound) (hwhole : db.WholeRatings)
    (hne : rating.dependentsOf db s ≠ []) :
    ∃ mean, meanOf (rating.valuesOf db s) = .ok (some mean) ∧
      rating.kept? (rating.valuesOf db s) = some (.real mean) := by
  obtain ⟨ratings, hvalues, hratings⟩ : ∃ ratings : List Int,
      rating.valuesOf db s = ratings.map Datum.int ∧ ∀ i ∈ ratings, 0 < i ∧ i ≤ 10 := by
    refine exists_map_eq fun row hrow => ?_
    obtain ⟨hrow, _⟩ := List.mem_filter.1 hrow
    obtain ⟨i, hi⟩ := hwhole row hrow
    exact ⟨i, congrArg Cell.toDatum hi, rating_between h hrow hi⟩
  have hlength : ratings.length = (rating.dependentsOf db s).length := by
    rw [← List.length_map, ← hvalues, valuesOf, List.length_map]
  have hfew : (rating.dependentsOf db s).length ≤ 2 ^ 63 - 1 :=
    Nat.le_trans (List.length_filter_le ..) (h.rows_length Kept.reviews.mem_standard)
  obtain ⟨mean, hmean, hrounded⟩ := meanOf_small
    (fun hnil => hne (List.length_eq_zero_iff.1 (by rw [← hlength, hnil]; rfl))) hratings (by omega)
  rw [hvalues]
  exact ⟨mean, hmean, kept?_of_rounded hmean hrounded⟩

theorem rating_kept (h : db.Current) (hne : rating.dependentsOf db s ≠ []) :
    ∃ mean, meanOf (rating.valuesOf db s) = .ok (some mean) ∧
      rating.kept? (rating.valuesOf db s) = some (.real mean) :=
  rating_kept_of_whole h.sound h.whole hne

/-! ## Costs -/

/-- Whether a number is the mean of values, rounded up to a multiple of ten. -/
def IsRoundedMean (values : List Datum) (k : Int) : Prop :=
  ∃ mean, meanOf values = .ok (some mean) ∧ mean.ceilToTen = .ok k

instance (values : List Datum) (k : Int) : Decidable (IsRoundedMean values k) :=
  match h : meanOf values with
  | .ok (some mean) => decidable_of_iff (mean.ceilToTen = .ok k) (by simp [IsRoundedMean, h])
  | .ok none => isFalse (by simp [IsRoundedMean, h])
  | .error _ => isFalse (by simp [IsRoundedMean, h])

theorem average_cost_iff {values : List Datum} {d : Datum} :
    cost.average values = .ok (some d) ↔ ∃ k, IsRoundedMean values k ∧ d = .int k := by
  unfold IsRoundedMean average
  cases hmean : meanOf values with
  | error failure => exact ⟨fun h => (nomatch h), fun ⟨_, ⟨_, h, _⟩, _⟩ => (nomatch h)⟩
  | ok found =>
    cases found with
    | none => exact ⟨fun h => (nomatch h), fun ⟨_, ⟨_, h, _⟩, _⟩ => (nomatch h)⟩
    | some mean =>
      have hfinish : ((some <$> cost.finish mean : Except Failure (Option Datum)) = .ok (some d)) ↔
          ∃ k, mean.ceilToTen = .ok k ∧ d = .int k := by
        show (some <$> (mean.ceilToTen.mapError Failure.ofRoundingFault).map Datum.int :
          Except Failure (Option Datum)) = .ok (some d) ↔ _
        cases mean.ceilToTen with
        | error fault => exact ⟨fun h => (nomatch h), fun ⟨_, h, _⟩ => (nomatch h)⟩
        | ok k =>
          constructor
          · intro h
            obtain rfl := Option.some.inj (Except.ok.inj h)
            exact ⟨k, rfl, rfl⟩
          · rintro ⟨_, hk, rfl⟩
            cases hk
            rfl
      refine hfinish.trans (exists_congr fun k => and_congr_left fun _ => ?_)
      constructor
      · exact fun hk => ⟨mean, rfl, hk⟩
      · rintro ⟨_, hsame, hk⟩
        obtain rfl := Option.some.inj (Except.ok.inj hsame)
        exact hk

/-- The rounded mean of tuitions is stored if and only if it has 64 bits. -/
theorem cost_kept_iff {values : List Datum} {cell : Cell} :
    cost.kept? values = some cell ↔
      ∃ k, IsRoundedMean values k ∧ Number.fitsWord k = true ∧ cell = .int k := by
  constructor
  · intro h
    unfold kept? at h
    split at h
    next d hd =>
      obtain ⟨k, hk, rfl⟩ := average_cost_iff.1 hd
      refine ⟨k, hk, ?_⟩
      rw [Cell.bind] at h
      split at h
      next hfits => exact ⟨hfits, (Option.some.inj h).symm⟩
      next => cases h
    next => cases h
  · rintro ⟨k, hk, hfits, rfl⟩
    have haverage := average_cost_iff.2 ⟨k, hk, rfl⟩
    unfold kept?
    rw [haverage]
    dsimp only
    rw [Cell.bind, if_pos hfits]
    rfl

theorem IsRoundedMean.unique {values : List Datum} {k k' : Int} (h : IsRoundedMean values k)
    (h' : IsRoundedMean values k') : k = k' := by
  obtain ⟨mean, hmean, hk⟩ := h
  obtain ⟨mean', hmean', hk'⟩ := h'
  obtain rfl := Option.some.inj (Except.ok.inj (hmean.symm.trans hmean'))
  exact Except.ok.inj (hk.symm.trans hk')

end Aggregate

/-! ## Runs -/

namespace Operation

variable {requests : List (Surroundings × Operation)}

/-- Whether no request meets a store that loses updates. -/
def Working (requests : List (Surroundings × Operation)) : Prop :=
  ∀ request ∈ requests, request.1.losesUpdates = false

instance (requests : List (Surroundings × Operation)) : Decidable (Working requests) :=
  inferInstanceAs (Decidable (∀ request ∈ requests, request.1.losesUpdates = false))

theorem runAll_concat (requests : List (Surroundings × Operation)) (request : Surroundings × Operation) :
    runAll .fresh (requests ++ [request]) = step (runAll .fresh requests) request := by
  rw [runAll, List.foldl_append, runAll]
  rfl

/-- Averages are current after every run. -/
theorem current_run (working : Working requests) : (runAll .fresh requests).database.Current := by
  induction requests using List.reverseRecOn with
  | nil => exact current_fresh
  | append_singleton requests request ih =>
    have hbefore := ih fun r hr => working r (List.mem_append_left _ hr)
    have hlast := working request (List.mem_append_right _ (List.mem_singleton_self _))
    rw [runAll_concat]
    exact (follows_step hbefore hlast).current

/-- What a step makes of an average of a school that was there before. -/
theorem step_average (working : Working requests) {request : Surroundings × Operation}
    (hrequest : request.1.losesUpdates = false) (a : Aggregate) {before school : Row}
    (hbefore : before ∈ (runAll .fresh requests).database.rows "schools")
    (hschool : school ∈ (step (runAll .fresh requests) request).database.rows "schools")
    (hid : school.id = before.id) :
    school.cell a.targetField =
      (a.kept? (a.valuesOf (step (runAll .fresh requests) request).database school.id)).getD
        (before.cell a.targetField) := by
  have hcurrent := current_run working
  rw [(follows_step hcurrent hrequest).follows school hschool a, hid,
    a.held_of_mem hcurrent.sound hbefore]

theorem valuesOf_nil {db : Database} {a : Aggregate} {s : Int} (h : a.dependentsOf db s = []) :
    a.valuesOf db s = [] := by
  rw [Aggregate.valuesOf, h]
  rfl

/-- A school that never had a course or review holds no average. -/
theorem held_of_never (working : Working requests) (a : Aggregate) {s : Int}
    (hnever : ∀ earlier, earlier <+: requests →
      a.dependentsOf (runAll .fresh earlier).database s = []) :
    a.held (runAll .fresh requests).database s = .null := by
  induction requests using List.reverseRecOn with
  | nil =>
    refine a.held_of_absent fun school hschool => ?_
    have hnone : Database.fresh.rows "schools" = [] := rows_fresh Kept.schools.mem_standard
    exact nomatch hnone ▸ hschool
  | append_singleton requests request ih =>
    have hworking : Working requests := fun r hr => working r (List.mem_append_left _ hr)
    have hbefore := ih hworking fun earlier hearlier =>
      hnever earlier (hearlier.trans (List.prefix_append ..))
    have hlast := working request (List.mem_append_right _ (List.mem_singleton_self _))
    have hfollows := follows_step (current_run hworking) hlast
    have hnow := hnever _ (List.prefix_refl _)
    rw [runAll_concat] at hnow ⊢
    by_cases hexists : ∃ school ∈ (step (runAll .fresh requests) request).database.rows "schools",
        school.id = s
    · obtain ⟨school, hschool, rfl⟩ := hexists
      rw [a.held_of_mem hfollows.sound hschool, hfollows.follows school hschool a, valuesOf_nil hnow,
        a.kept?_nil, Option.getD_none, hbefore]
    · exact a.held_of_absent fun school hschool hid => hexists ⟨school, hschool, hid⟩

/-! ## Results -/

/-- Surroundings for small runs, in which a password is cheap to keep. -/
def calm : Surroundings := { now := 0, instant := fun n => n, salt := fun _ => [], iterations := 1 }

def admin : Caller := ⟨.int 1, .text "admin"⟩

/-- An admin registers and publishes a school. -/
def opening : List (Surroundings × Operation) :=
  [(calm, .register ⟨"Ada", "ada@example.com", "secret1", "user"⟩),
    (calm, .createSchool ⟨"Devworks", "A school", none, none, none, .proper "1 Main St"⟩ admin)]

/-- The school gets a review. -/
def reviewed : List (Surroundings × Operation) :=
  opening ++ [(calm, .createReview (.int 1) ⟨"Good", .proper "Well taught", 8⟩ admin)]

/-- The school gets a course. -/
def priced : List (Surroundings × Operation) :=
  opening ++ [(calm, .createCourse (.int 1) ⟨"Web", "Full stack", "8", .ofInt 100, false⟩ admin)]

/-- The course of the school becomes dearer than any price that can be kept as an average. -/
def outgrown : List (Surroundings × Operation) :=
  priced ++ [(calm, .updateCourse (.int 1) ⟨none, none, none, some (.ofInt (10 ^ 20)), none⟩ admin)]

/-- After every run, a school with reviews holds the mean of the ratings of exactly its reviews. A step
after which a school has no review leaves what it holds unchanged, and a school that never had one holds
nothing. -/
theorem rating_of_run (requests : List (Surroundings × Operation)) (working : Working requests) :
    let db := (runAll .fresh requests).database
    (∀ school ∈ db.rows "schools", Aggregate.rating.dependentsOf db school.id ≠ [] →
      ∃ mean, Aggregate.meanOf (Aggregate.rating.valuesOf db school.id) = .ok (some mean) ∧
        school.cell "average_rating" = .real mean) ∧
    (∀ request : Surroundings × Operation, request.1.losesUpdates = false →
      let after := (step (runAll .fresh requests) request).database
      ∀ before ∈ db.rows "schools", ∀ school ∈ after.rows "schools", school.id = before.id →
        Aggregate.rating.dependentsOf after school.id = [] →
        school.cell "average_rating" = before.cell "average_rating") ∧
    ∀ school ∈ db.rows "schools", (∀ earlier, earlier <+: requests →
        Aggregate.rating.dependentsOf (runAll .fresh earlier).database school.id = []) →
      school.cell "average_rating" = .null := by
  intro db
  have hcurrent := current_run working
  refine ⟨?_, ?_, ?_⟩
  · intro school hschool hne
    obtain ⟨mean, hmean, hkept⟩ := Aggregate.rating_kept hcurrent hne
    exact ⟨mean, hmean, hcurrent.current school hschool .rating _ hkept⟩
  · intro request hrequest after before hbefore school hschool hid hnone
    have hstep := step_average working hrequest .rating hbefore hschool hid
    rwa [valuesOf_nil hnone] at hstep
  · intro school hschool hnever
    have hheld := held_of_never working .rating hnever
    rwa [Aggregate.held_of_mem hcurrent.sound hschool] at hheld

theorem rating_of_reviewed : Working reviewed ∧
    let db := (runAll .fresh reviewed).database
    ∃ school ∈ db.rows "schools", ∃ mean,
      Aggregate.meanOf (Aggregate.rating.valuesOf db school.id) = .ok (some mean) ∧
        school.cell "average_rating" = .real mean := by
  have working : Working reviewed := by decide
  have hreviewed : ∃ school ∈ (runAll .fresh reviewed).database.rows "schools",
      Aggregate.rating.dependentsOf (runAll .fresh reviewed).database school.id ≠ [] := by
    decide +kernel
  obtain ⟨school, hschool, hne⟩ := hreviewed
  exact ⟨working, school, hschool, (rating_of_run reviewed working).1 school hschool hne⟩

/-- After every run, a school holds the mean of the tuitions of exactly its courses, rounded up to a
multiple of ten, if and only if that exists and has 64 bits. A step after which it does not leaves what
the school holds unchanged. -/
theorem cost_of_run (requests : List (Surroundings × Operation)) (working : Working requests) :
    let db := (runAll .fresh requests).database
    (∀ school ∈ db.rows "schools",
      (∃ k, Aggregate.IsRoundedMean (Aggregate.cost.valuesOf db school.id) k ∧
        school.cell "average_cost" = .int k) ↔
      ∃ k, Aggregate.IsRoundedMean (Aggregate.cost.valuesOf db school.id) k ∧
        Number.fitsWord k = true) ∧
    ∀ request : Surroundings × Operation, request.1.losesUpdates = false →
      let after := (step (runAll .fresh requests) request).database
      ∀ before ∈ db.rows "schools", ∀ school ∈ after.rows "schools", school.id = before.id →
        (¬ ∃ k, Aggregate.IsRoundedMean (Aggregate.cost.valuesOf after school.id) k ∧
          Number.fitsWord k = true) →
        school.cell "average_cost" = before.cell "average_cost" := by
  intro db
  have hcurrent := current_run working
  constructor
  · intro school hschool
    constructor
    · rintro ⟨k, hk, hcell⟩
      refine ⟨k, hk, ?_⟩
      have hproper := (hcurrent.sound.fits _ Kept.schools.mem_standard school hschool).proper
        Aggregate.cost.column_mem
      rw [Aggregate.column_name] at hproper
      exact (congrArg Cell.Proper hcell).mp hproper
    · rintro ⟨k, hk, hfits⟩
      have hkept := Aggregate.cost_kept_iff.2 ⟨k, hk, hfits, rfl⟩
      exact ⟨k, hk, hcurrent.current school hschool .cost _ hkept⟩
  · intro request hrequest after before hbefore school hschool hid hnone
    have hstep := step_average working hrequest .cost hbefore hschool hid
    have hkept : Aggregate.cost.kept? (Aggregate.cost.valuesOf after school.id) = none := by
      rw [Option.eq_none_iff_forall_ne_some]
      intro cell hcell
      obtain ⟨k, hk, hfits, _⟩ := Aggregate.cost_kept_iff.1 hcell
      exact hnone ⟨k, hk, hfits⟩
    rwa [hkept] at hstep

theorem cost_of_priced : Working priced ∧
    let db := (runAll .fresh priced).database
    ∃ school ∈ db.rows "schools", ∃ k,
      Aggregate.IsRoundedMean (Aggregate.cost.valuesOf db school.id) k ∧
        school.cell "average_cost" = .int k := by
  have working : Working priced := by decide
  have hpriced : ∃ school ∈ (runAll .fresh priced).database.rows "schools",
      Aggregate.IsRoundedMean
        (Aggregate.cost.valuesOf (runAll .fresh priced).database school.id) 100 := by
    decide +kernel
  obtain ⟨school, hschool, hmean⟩ := hpriced
  have hboth := (cost_of_run priced working).1 school hschool
  exact ⟨working, school, hschool, hboth.2 ⟨100, hmean, by decide⟩⟩

/-- A school keeps the average from before its course became too dear. -/
theorem cost_outgrown : Working outgrown ∧
    let db := (runAll .fresh outgrown).database
    ∃ school ∈ db.rows "schools",
      Aggregate.IsRoundedMean (Aggregate.cost.valuesOf db school.id) (10 ^ 20) ∧
        school.cell "average_cost" = .int 100 := by
  decide +kernel

end Operation

end SchoolCatalog
