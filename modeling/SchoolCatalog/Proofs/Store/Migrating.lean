import Mathlib.Algebra.Order.Group.Int
import Mathlib.Data.List.Chain
import SchoolCatalog.Store.Migration

/-!
# What migrating does

The scripts that a run executes are those of the listed versions above all that are recorded, in
order, up to the first that fails, and the record grows by exactly the versions whose scripts reached
their ends: nothing that was inserted is pending when a script fails, since each script commits first.
Over any number of runs on an empty database the record therefore stays ascending and only grows.

Results:
* `applies_initialise`: what one run executes and leaves;
* `recorded_of_applies`: the record it leaves;
* `initialise_again`: a run that succeeded has nothing to do a second time;
* `recorded_of_runs`: the record over all runs.
-/

namespace SchoolCatalog.Store

/-- A list in the order of its versions, which are positive and can be stored. -/
structure Migration.Ordered (list : List Migration) : Prop where
  ascending : list.Pairwise (·.version < ·.version)
  positive : ∀ m ∈ list, 0 < m.version
  fits : ∀ m ∈ list, Number.fitsWord m.version = true

/-- The scripts of some migrations reach their ends one after the other, each with its version
recorded before the next. -/
inductive Executes : Database → List Migration → Database → Prop
  | nil (db : Database) : Executes db [] db
  | cons {db mid after : Database} {m : Migration} {rest : List Migration}
      (ended : m.script db = (mid, none)) (ran : Executes (mid.record [m.version]) rest after) :
      Executes db (m :: rest) after

/-- The scripts of some migrations are executed in order, up to and with the first that fails; those
in `done` reached their ends. -/
inductive Applies (db : Database) (newer : List Migration) :
    List Migration → Database × Option Failure → Prop
  | all {after : Database} (ran : Executes db newer after) : Applies db newer newer (after, none)
  | upTo {done rest : List Migration} {m : Migration} {reached after : Database} {failure : Failure}
      (cut : newer = done ++ m :: rest) (ran : Executes db done reached)
      (raised : m.script reached = (after, some failure)) :
      Applies db newer done (after, some failure)

namespace Database

/-- What is left of an empty database by runs with one list after the other. -/
def afterRuns (runs : List (List Migration)) : Database :=
  runs.foldl (fun db list => (db.initialise list).1) empty

/-- The migrations of a list that are newer than all recorded versions. -/
def newer (db : Database) (list : List Migration) : List Migration :=
  list.filter fun m => db.latest < m.version

variable {db : Database}

/-! ## The record -/

@[simp] theorem recorded_openRecord (db : Database) : db.openRecord.recorded = db.recorded := rfl

theorem recorded_record (hopen : db.versions.isSome) (versions : List Int) :
    (db.record versions).recorded = db.recorded ++ versions := by
  obtain ⟨kept, hkept⟩ := Option.isSome_iff_exists.mp hopen
  simp [record, recorded, hkept]

@[simp] theorem isSome_record (versions : List Int) :
    (db.record versions).versions.isSome = db.versions.isSome := by
  simp [record]

@[simp] theorem record_nil (db : Database) : db.record [] = db := by
  cases db with
  | mk versions => cases versions <;> simp [record]

theorem openRecord_eq (hopen : db.versions.isSome) : db.openRecord = db := by
  obtain ⟨kept, hkept⟩ := Option.isSome_iff_exists.mp hopen
  cases db with
  | mk versions =>
    obtain rfl : versions = some kept := hkept
    rfl

theorem le_latest {v : Int} (hv : v ∈ db.recorded) : v ≤ db.latest := by
  unfold latest
  cases hmax : db.recorded.max? with
  | none => simp [List.max?_eq_none_iff.mp hmax] at hv
  | some m => exact (List.max?_eq_some_iff.mp hmax).2 v hv

/-- What exceeds zero and all recorded versions exceeds the latest. -/
theorem latest_lt {bound : Int} (hzero : 0 < bound) (h : ∀ v ∈ db.recorded, v < bound) :
    db.latest < bound := by
  unfold latest
  cases hmax : db.recorded.max? with
  | none => exact hzero
  | some m => exact h m (List.max?_eq_some_iff.mp hmax).1

theorem mem_newer {list : List Migration} {m : Migration} :
    m ∈ db.newer list ↔ m ∈ list ∧ db.latest < m.version := by
  simp [newer]

end Database

open Database

variable {db mid after : Database} {list newer done : List Migration} {m : Migration}
  {result : Database × Option Failure}

namespace Migration

theorem Ordered.tail {rest : List Migration} (h : Ordered (m :: rest)) : Ordered rest :=
  ⟨h.ascending.of_cons, fun n hn => h.positive n (.tail _ hn), fun n hn => h.fits n (.tail _ hn)⟩

/-- Above a bound that its first version exceeds, a list in order is all there. -/
theorem Ordered.filter_cons {rest : List Migration} (h : Ordered (m :: rest)) {bound : Int}
    (hnew : bound < m.version) :
    ((m :: rest).filter fun n => bound < n.version) =
      m :: rest.filter fun n => m.version < n.version := by
  rw [List.filter_cons_of_pos (by simpa using hnew)]
  congr 1
  refine List.filter_congr fun n hn => ?_
  have := List.rel_of_pairwise_cons h.ascending hn
  simp only [decide_eq_decide]
  omega

/-- A script leaves the record as it found it. -/
theorem versions_of_script {failure : Option Failure} (h : m.script db = (mid, failure)) :
    mid.versions = db.versions := by
  have := m.spares db
  rwa [h] at this

end Migration

/-! ## One run -/

theorem Executes.isSome (h : Executes db done after) : after.versions.isSome = db.versions.isSome := by
  induction h with
  | nil => rfl
  | cons ended _ ih => rw [ih, isSome_record, Migration.versions_of_script ended]

/-- Scripts that reached their ends are recorded, in their order. -/
theorem Executes.recorded (h : Executes db done after) (hopen : db.versions.isSome) :
    after.recorded = db.recorded ++ done.map (·.version) := by
  induction h with
  | nil => simp
  | @cons db mid after m rest ended _ ih =>
    have hversions := Migration.versions_of_script ended
    have hmid : mid.versions.isSome := hversions ▸ hopen
    rw [ih (by rwa [isSome_record]), recorded_record hmid, Database.recorded, hversions,
      List.append_assoc]
    rfl

theorem Applies.cons (ended : m.script db = (mid, none))
    (h : Applies (mid.record [m.version]) newer done result) :
    Applies db (m :: newer) (m :: done) result := by
  cases h with
  | all ran => exact .all (.cons ended ran)
  | upTo cut ran raised => exact .upTo (by rw [cut]; rfl) (.cons ended ran) raised

/-- A run grows the record by the versions of the scripts that reached their ends. -/
theorem recorded_of_applies (h : Applies db newer done result) (hopen : db.versions.isSome) :
    result.1.recorded = db.recorded ++ done.map (·.version) := by
  cases h with
  | all ran => exact ran.recorded hopen
  | upTo _ ran raised =>
    rw [← ran.recorded hopen, Database.recorded, Migration.versions_of_script raised]
    rfl

theorem isSome_of_applies (h : Applies db newer done result) :
    result.1.versions.isSome = db.versions.isSome := by
  cases h with
  | all ran => exact ran.isSome
  | upTo _ ran raised => rw [← ran.isSome, ← Migration.versions_of_script raised]

theorem prefix_of_applies (h : Applies db newer done result) : done <+: newer := by
  cases h with
  | all => exact List.prefix_refl _
  | upTo cut => exact ⟨_, cut.symm⟩

theorem done_of_applies (h : Applies db newer done result) (hnone : result.2 = none) :
    done = newer := by
  cases h with
  | all => rfl
  | upTo => cases hnone

namespace Connection

variable {c : Connection}

@[simp] theorem commit_of_nil (db : Database) :
    (commit { database := db }).database = db := record_nil db

/-- After a script that committed all before it, inserting a newer version succeeds. -/
theorem insert_of_newer {version current : Int} (hfits : Number.fitsWord version = true)
    (hbelow : ∀ v ∈ mid.recorded, v ≤ current) (hnew : current < version) :
    insert { database := mid } version = .ok { database := mid, pending := [version] } := by
  have habsent : version ∉ mid.recorded := fun hmem => by
    have := hbelow version hmem
    omega
  simp [insert, hfits, habsent]

theorem applyNewer_raised {current : Int} {rest : List Migration} {failure : Failure}
    (hnew : current < m.version) (raised : m.script c.commit.database = (mid, some failure)) :
    c.applyNewer current (m :: rest) = ({ database := mid }, some failure) := by
  simp only [applyNewer, if_pos hnew, execute, raised]

theorem applyNewer_ended {current : Int} {rest : List Migration} {c' : Connection}
    (hnew : current < m.version) (ended : m.script c.commit.database = (mid, none))
    (hinsert : insert { database := mid } m.version = .ok c') :
    c.applyNewer current (m :: rest) = c'.applyNewer m.version rest := by
  simp only [applyNewer, if_pos hnew, execute, ended, hinsert]

theorem applyNewer_of_old {current : Int} (hold : ∀ m ∈ list, m.version ≤ current) :
    c.applyNewer current list = (c, none) := by
  induction list with
  | nil => rfl
  | cons m rest ih =>
    rw [applyNewer, if_neg (not_lt.mpr (hold m (.head _)))]
    exact ih fun n hn => hold n (.tail _ hn)

/-- What a connection does with a list of migrations in order, from the state that it would commit
to: nothing that it inserted is pending while a script runs. -/
theorem applies_applyNewer (ordered : Migration.Ordered list) (c : Connection) (current : Int)
    (hopen : c.database.versions.isSome)
    (hbelow : ∀ v ∈ c.commit.database.recorded, v ≤ current) :
    ∃ done, Applies c.commit.database (list.filter fun m => current < m.version) done
      (close (c.applyNewer current list)) := by
  induction list generalizing c current with
  | nil => exact ⟨[], .all (.nil _)⟩
  | cons m rest ih =>
    by_cases hnew : current < m.version
    · rw [ordered.filter_cons hnew]
      rcases hscript : m.script c.commit.database with ⟨mid, _ | failure⟩
      · have hversions := Migration.versions_of_script hscript
        have hmid : mid.versions.isSome := by rwa [hversions, commit, isSome_record]
        rw [Database.recorded, ← hversions] at hbelow
        have hinsert := insert_of_newer (ordered.fits m (.head _)) hbelow hnew
        have hgrown : ∀ v ∈ (mid.record [m.version]).recorded, v ≤ m.version := by
          intro v hv
          rw [recorded_record hmid, List.mem_append, List.mem_singleton] at hv
          rcases hv with hv | rfl
          · exact (hbelow v hv).trans hnew.le
          · exact le_rfl
        obtain ⟨done, hdone⟩ := ih ordered.tail { database := mid, pending := [m.version] } m.version
          hmid hgrown
        rw [applyNewer_ended hnew hscript hinsert]
        exact ⟨m :: done, hdone.cons hscript⟩
      · rw [applyNewer_raised hnew hscript]
        exact ⟨[], .upTo rfl (.nil _) hscript⟩
    · simp only [applyNewer, if_neg hnew, List.filter_cons, decide_eq_false hnew]
      exact ih ordered.tail c current hopen hbelow

end Connection

namespace Database

variable {runs : List (List Migration)}

/-- A run executes the scripts of the listed versions above all that are recorded, in order, up to
and with the first that fails. -/
theorem applies_initialise (ordered : Migration.Ordered list) (db : Database) :
    ∃ done, Applies db.openRecord (db.newer list) done (db.initialise list) := by
  have h := Connection.applies_applyNewer ordered { database := db.openRecord } db.latest rfl
  rw [Connection.commit_of_nil] at h
  exact h fun v hv => le_latest hv

theorem initialise_of_old (hopen : db.versions.isSome) (hold : ∀ m ∈ list, m.version ≤ db.latest) :
    db.initialise list = (db, none) := by
  rw [initialise, Connection.applyNewer_of_old hold, Connection.close, Connection.commit_of_nil,
    openRecord_eq hopen]

/-- After a run that succeeded every listed version is below the latest that is recorded: it was
before, or its script has reached its end. -/
theorem le_latest_of_initialise (ordered : Migration.Ordered list)
    (h : db.initialise list = (after, none)) : ∀ m ∈ list, m.version ≤ after.latest := by
  intro m hm
  obtain ⟨done, hdone⟩ := applies_initialise ordered db
  rw [h] at hdone
  have hrecorded := recorded_of_applies hdone rfl
  obtain rfl := done_of_applies hdone rfl
  by_cases hnew : db.latest < m.version
  · refine le_latest ?_
    rw [hrecorded]
    exact List.mem_append_right _ (List.mem_map_of_mem (mem_newer.mpr ⟨hm, hnew⟩))
  · -- the latest is no zero here, so it is recorded
    have hle : m.version ≤ db.latest := not_lt.mp hnew
    have hpositive := ordered.positive m hm
    by_contra hlt
    have hrun : after.latest < db.latest := (not_le.mp hlt).trans_le hle
    have hall : ∀ v ∈ db.recorded, v < db.latest := fun v hv => by
      have : v ≤ after.latest := le_latest (by rw [hrecorded]; exact List.mem_append_left _ hv)
      omega
    exact lt_irrefl _ (latest_lt (by omega) hall)

/-- A run that succeeded has nothing to do a second time. -/
theorem initialise_again (ordered : Migration.Ordered list)
    (h : db.initialise list = (after, none)) : after.initialise list = (after, none) := by
  refine initialise_of_old ?_ (le_latest_of_initialise ordered h)
  obtain ⟨done, hdone⟩ := applies_initialise ordered db
  rw [h] at hdone
  exact isSome_of_applies hdone

/-! ## Many runs -/

/-- Some run of a sequence executed the script of a version to its end. -/
def HasRun (runs : List (List Migration)) (version : Int) : Prop :=
  ∃ earlier list later done, runs = earlier ++ list :: later ∧
    Applies (afterRuns earlier).openRecord ((afterRuns earlier).newer list) done
      ((afterRuns earlier).initialise list) ∧
    ∃ m ∈ done, m.version = version

theorem HasRun.append {version : Int} (h : HasRun runs version) (more : List (List Migration)) :
    HasRun (runs ++ more) version := by
  obtain ⟨earlier, list, later, done, rfl, hdone⟩ := h
  exact ⟨earlier, list, later ++ more, done, by simp, hdone⟩

theorem afterRuns_concat (runs : List (List Migration)) (list : List Migration) :
    afterRuns (runs ++ [list]) = ((afterRuns runs).initialise list).1 := by
  simp [afterRuns]

/-- The record over runs is ascending, and every version in it is there because its script ran. -/
theorem recorded_afterRuns (ordered : ∀ list ∈ runs, Migration.Ordered list) :
    (afterRuns runs).recorded.Pairwise (· < ·) ∧ ∀ v ∈ (afterRuns runs).recorded, HasRun runs v := by
  induction runs using List.reverseRecOn with
  | nil => exact ⟨.nil, fun v hv => nomatch hv⟩
  | append_singleton runs list ih =>
    obtain ⟨hascending, hrun⟩ := ih fun l hl => ordered l (List.mem_append_left _ hl)
    have hlist := ordered list (by simp)
    obtain ⟨done, hdone⟩ := applies_initialise hlist (afterRuns runs)
    have hsub := (prefix_of_applies hdone).sublist
    rw [afterRuns_concat, recorded_of_applies hdone rfl, recorded_openRecord]
    constructor
    · refine List.pairwise_append.mpr ⟨hascending, ?_, ?_⟩
      · exact List.pairwise_map.mpr ((hlist.ascending.filter _).sublist hsub)
      · intro v hv w hw
        obtain ⟨m, hm, rfl⟩ := List.mem_map.mp hw
        exact (le_latest hv).trans_lt (mem_newer.mp (hsub.subset hm)).2
    · intro v hv
      rcases List.mem_append.mp hv with hv | hv
      · exact (hrun v hv).append _
      · obtain ⟨m, hm, hversion⟩ := List.mem_map.mp hv
        exact ⟨runs, list, [], done, rfl, hdone, m, hm, hversion⟩

/-- Where a list extends the known migrations, exactly those that it adds are newer. -/
theorem newer_of_extends {known more : List Migration} (ordered : Migration.Ordered (known ++ more))
    (hknown : db.recorded = known.map (·.version)) : db.newer (known ++ more) = more := by
  have hascending := List.pairwise_append.mp ordered.ascending
  have hold : ∀ m ∈ known, ¬db.latest < m.version := fun m hm =>
    not_lt.mpr (le_latest (hknown ▸ List.mem_map_of_mem hm))
  have hnew : ∀ m ∈ more, db.latest < m.version := by
    intro m hm
    refine latest_lt (ordered.positive m (List.mem_append_right _ hm)) fun v hv => ?_
    rw [hknown] at hv
    obtain ⟨k, hk, rfl⟩ := List.mem_map.mp hv
    exact hascending.2.2 k hk m hm
  rw [newer, List.filter_append, List.filter_eq_nil_iff.mpr (by simpa using hold),
    List.filter_eq_self.mpr (by simpa using hnew), List.nil_append]

/-- Where each list extends the one before, the record holds the versions of a first part of the
next. -/
theorem known_afterRuns (ordered : ∀ l ∈ runs ++ [list], Migration.Ordered l)
    (hextend : (runs ++ [list]).IsChain (· <+: ·)) :
    ∃ known, known <+: list ∧ (afterRuns runs).recorded = known.map (·.version) := by
  induction runs using List.reverseRecOn generalizing list with
  | nil => exact ⟨[], List.nil_prefix, rfl⟩
  | append_singleton runs last ih =>
    have hstep : last <+: list := by
      have := List.isChain_append.mp hextend
      exact this.2.2 last (by simp) list (by simp)
    obtain ⟨known, ⟨more, rfl⟩, hknown⟩ := ih (fun l hl => ordered l (List.mem_append_left _ hl))
      (List.isChain_append.mp hextend).1
    have hlast := ordered (known ++ more) (by simp)
    obtain ⟨done, hdone⟩ := applies_initialise hlast (afterRuns runs)
    rw [newer_of_extends hlast hknown] at hdone
    refine ⟨known ++ done, ?_, ?_⟩
    · exact (List.prefix_append_right_inj known |>.mpr (prefix_of_applies hdone)).trans hstep
    · rw [afterRuns_concat, recorded_of_applies hdone rfl, recorded_openRecord, hknown,
        List.map_append]

/-- Where each list extends the one before, a run that succeeds leaves all of its list recorded. -/
theorem listed_of_initialise (ordered : ∀ l ∈ runs ++ [list], Migration.Ordered l)
    (hextend : (runs ++ [list]).IsChain (· <+: ·))
    (h : (afterRuns runs).initialise list = (after, none)) :
    after.recorded = list.map (·.version) := by
  obtain ⟨known, ⟨more, rfl⟩, hknown⟩ := known_afterRuns ordered hextend
  have hlist := ordered (known ++ more) (by simp)
  obtain ⟨done, hdone⟩ := applies_initialise hlist (afterRuns runs)
  rw [newer_of_extends hlist hknown, h] at hdone
  rw [recorded_of_applies hdone rfl, recorded_openRecord, hknown, done_of_applies hdone rfl,
    List.map_append]

/-- After any runs on an empty database, with lists in the order of their positive versions, one more
run executes the scripts of the listed versions above the latest that is recorded, in order, up to
and with the first that fails, and adds to the record the versions whose scripts reached their ends.
So no version is recorded twice, or without a run of its script, and none is forgotten; where each
list extends the one before, a run that succeeds leaves all listed versions recorded; and a run that
succeeded changes nothing when it is repeated. -/
theorem recorded_of_runs (ordered : ∀ l ∈ runs ++ [list], Migration.Ordered l) :
    let before := afterRuns runs
    let result := before.initialise list
    (∃ done, Applies before.openRecord (before.newer list) done result ∧
      result.1.recorded = before.recorded ++ done.map (·.version)) ∧
    result.1.recorded.Nodup ∧
    (∀ v ∈ result.1.recorded, HasRun (runs ++ [list]) v) ∧
    ((runs ++ [list]).IsChain (· <+: ·) → result.2 = none →
      ∀ m ∈ list, m.version ∈ result.1.recorded) ∧
    (result.2 = none → result.1.initialise list = (result.1, none)) := by
  have hlist := ordered list (by simp)
  obtain ⟨done, hdone⟩ := applies_initialise hlist (afterRuns runs)
  have hrecorded := recorded_of_applies hdone rfl
  obtain ⟨hascending, hhasRun⟩ := recorded_afterRuns ordered
  rw [afterRuns_concat] at hascending hhasRun
  refine ⟨⟨done, hdone, hrecorded⟩, hascending.imp ne_of_lt, hhasRun, ?_, ?_⟩
  · intro hextend hnone m hm
    rw [listed_of_initialise ordered hextend (Prod.ext rfl hnone)]
    exact List.mem_map_of_mem hm
  · intro hnone
    exact initialise_again hlist (Prod.ext rfl hnone)

/-- The tables are there before the indices can be: a run that starts with the indices fails and
records nothing, and the next one with the whole list records it all. -/
theorem recorded_of_second_run :
    let before := afterRuns [[.lookupIndices]]
    let result := before.initialise [.initialSchema, .lookupIndices]
    before.recorded = [] ∧ result.1.recorded = [1, 2] ∧ result.1.recorded.Nodup ∧
    result.1.initialise [.initialSchema, .lookupIndices] = (result.1, none) := by
  have ordered : ∀ l ∈ [[Migration.lookupIndices]] ++ [[.initialSchema, .lookupIndices]],
      Migration.Ordered l := by
    intro l hl
    simp only [List.singleton_append, List.mem_cons, List.not_mem_nil, or_false] at hl
    rcases hl with rfl | rfl <;> constructor <;> decide
  obtain ⟨-, hnodup, -, -, hagain⟩ := recorded_of_runs ordered
  exact ⟨rfl, rfl, hnodup, hagain rfl⟩

/-- The script of a version that cannot be stored reaches its end, and yet the run fails and does not
record it. -/
theorem unrecorded_of_wide :
    let list := [Migration.idle (2 ^ 63)]
    list.Pairwise (·.version < ·.version) ∧ (∀ m ∈ list, 0 < m.version) ∧
    ¬∃ done, Applies empty.openRecord (empty.newer list) done (empty.initialise list) ∧
      (empty.initialise list).1.recorded = empty.recorded ++ done.map (·.version) := by
  refine ⟨by decide, by decide, ?_⟩
  rintro ⟨done, hdone, -⟩
  have hfailed : empty.initialise [Migration.idle (2 ^ 63)] =
      (empty.openRecord, some .outOfRange) := rfl
  have hnewer : empty.newer [Migration.idle (2 ^ 63)] = [Migration.idle (2 ^ 63)] := rfl
  rw [hfailed, hnewer] at hdone
  -- the one script that is executed does not fail
  cases hdone with
  | upTo cut ran raised =>
    cases done with
    | nil =>
      obtain ⟨rfl, -⟩ := List.cons.inj cut
      cases raised
    | cons _ tail => exact absurd (List.cons.inj cut).2 (by simp)

end Database

end SchoolCatalog.Store
