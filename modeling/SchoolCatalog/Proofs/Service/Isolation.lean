import SchoolCatalog.Proofs.Service.Files
import SchoolCatalog.Proofs.Store.Hiding

/-!
# Recomputing averages apart

Recomputing an average never stands in the way of the write that it follows. Whatever goes wrong in it, an
operation gives the same answer or fails in the same way, and leaves the same state, but for the averages
that schools hold and for the log. To say so, states are compared with these two taken out.

Results:
1. `unaveraged_of_update`: writing an average changes nothing but averages.
2. `settled_recompute`, `settled_amid`: recomputing answers nothing and changes nothing but averages,
   whether all goes well or not.
3. `alike_bind`: two operations that begin alike and go on alike.
4. `alike_perform`: no operation depends on the way in which averages are recomputed.
5. `alike_amid_mishaps`: the same, with mishaps in the recomputations.
-/

namespace SchoolCatalog

open Store Store.Database

/-! ## Without averages -/

namespace Store

/-- The schools as a collection in which the averages are hidden. -/
def unaveragedSchools : Collection :=
  { Collection.schools with
    hidden := [Aggregate.cost.targetField, Aggregate.rating.targetField] }

/-- A database without the averages of schools. -/
def Database.unaveraged (db : Database) : Database := db.hiding unaveragedSchools

/-- The cells of a row without hidden ones, by their names. -/
theorem Row.cells_hiding {row : Row} (hidden : List String) (hnodup : (row.cells.map (·.1)).Nodup) :
    (row.hiding hidden).cells = (row.cells.map (·.1)).map fun name =>
      (name, if hidden.contains name then .null else row.cell name) := by
  unfold Row.hiding
  rw [List.map_map]
  refine List.map_congr_left fun entry hentry => ?_
  have hlookup := lookup_map_names (·.1) (·.2) hnodup hentry
  rw [show (row.cells.map fun a => (a.1, a.2)) = row.cells from List.map_id _] at hlookup
  show (entry.1, _) = (entry.1, if _ then _ else (row.cells.lookup entry.1).getD .null)
  rw [hlookup]
  rfl

/-- Rows that differ in hidden columns only are the same without these. -/
theorem Row.hiding_congr {hidden : List String} {row other : Row} (hid : row.id = other.id)
    (hnodup : (row.cells.map (·.1)).Nodup) (hnames : other.cells.map (·.1) = row.cells.map (·.1))
    (hcells : ∀ name ∈ row.cells.map (·.1), name ∉ hidden → row.cell name = other.cell name) :
    row.hiding hidden = other.hiding hidden := by
  have hsame : (row.hiding hidden).cells = (other.hiding hidden).cells := by
    rw [cells_hiding hidden hnodup, cells_hiding hidden (hnames.symm ▸ hnodup), hnames]
    refine List.map_congr_left fun name hname => ?_
    by_cases hhidden : name ∈ hidden
    · rw [if_pos (List.contains_iff_mem.2 hhidden), if_pos (List.contains_iff_mem.2 hhidden)]
    · rw [hcells name hname hhidden]
  exact congrArg₂ Row.mk hid hsame

variable {db after : Database}

/-- A row that takes the place of one which is the same without hidden values changes nothing else. -/
theorem hiding_amended {c : Collection} {l : Layout} (h : db.Sound) (hl : l ∈ Layout.standard)
    (hname : l.name = c.name) {old row : Row} (hold : old ∈ db.rows l.name) (hid : row.id = old.id)
    (hsame : row.hiding c.hidden = old.hiding c.hidden) :
    (db.amended l row).hiding c = db.hiding c := by
  have htables : (db.amended l row).tables.map (Table.hiding c) = db.tables.map (Table.hiding c) := by
    show (db.tables.map _).map _ = _
    rw [List.map_map]
    refine List.map_congr_left fun t ht => ?_
    dsimp only [Function.comp]
    split
    next heq =>
      obtain rfl : t = ⟨l, db.rows l.name⟩ := h.standing.eq_of_name ht (h.standing.table_mem hl) heq
      unfold Table.hiding
      dsimp only
      rw [if_pos hname, if_pos hname, List.map_map]
      refine congrArg (Table.mk l) (List.map_congr_left fun r hr => ?_)
      dsimp only [Function.comp]
      split
      next hrid => rw [h.eq_of_id hl hr hold (hrid.trans hid), hsame]
      next => rfl
    next => rfl
  unfold Database.hiding
  rw [htables]
  rfl

/-- Writing an average changes nothing but averages. -/
theorem unaveraged_of_update (h : db.Sound) (a : Aggregate) {school d : Datum} {found : Bool}
    (hupdate : db.update .schools school [(a.targetField, d)] = .ok (after, found)) :
    after.unaveraged = db.unaveraged := by
  rcases update_spec h .schools (forColumns_average a d) hupdate with
    ⟨_, rfl, _⟩ | ⟨_, old, hold, row, _, hid, rfl, hsound, hwritten⟩
  · rfl
  · have hfits := h.fits _ Kept.schools.mem_standard old hold
    have hfits' := hsound.fits _ Kept.schools.mem_standard row
      (mem_amended_self h Kept.schools.mem_standard hold hid)
    refine hiding_amended h Kept.schools.mem_standard rfl hold hid ?_
    refine Row.hiding_congr hid (hfits'.names ▸ Kept.schools.columns_nodup)
      (hfits.names.trans hfits'.names.symm) fun name hname hhidden => ?_
    obtain ⟨col, hcol, rfl⟩ := List.mem_map.1 (hfits'.names ▸ hname)
    rcases hwritten col hcol with ⟨_, _, hmem, _⟩ | ⟨_, hsame⟩
    · have hcolumn : col.name = a.targetField :=
        (Prod.mk.inj (List.mem_singleton.1 hmem)).1
      exact absurd (by cases a <;> simp [unaveragedSchools]) (hcolumn ▸ hhidden)
    · exact hsame

end Store

/-- A state without averages and without its log. -/
def State.unaveraged (s : State) : State :=
  { s with database := s.database.unaveraged, log := [] }

namespace Service

variable {α β : Type} {x y : Service α}

/-! ## Changing averages and nothing else -/

/-- The operation changes nothing but averages and the log. -/
def OnlyAverages (x : Service α) : Prop :=
  ∀ around state, state.database.Sound → (run x around state).2.database.Sound ∧
    (run x around state).2.unaveraged = state.unaveraged

theorem onlyAverages_quiet (hx : Quiet x) : OnlyAverages x := by
  intro around state h
  have hsame : (run x around state).2 = state := hx around state
  rw [hsame]
  exact ⟨h, rfl⟩

theorem onlyAverages_log (level : LogLevel) (text : String) :
    OnlyAverages (Service.log level text) := fun _ _ h => ⟨h, rfl⟩

theorem OnlyAverages.bind {f : α → Service β} (hx : OnlyAverages x) (hf : ∀ a, OnlyAverages (f a)) :
    OnlyAverages (x >>= f) := by
  intro around state h
  have hfirst := hx around state h
  rw [run_bind]
  cases hrun : run x around state with
  | mk result next =>
    rw [hrun] at hfirst
    cases result with
    | error failure => exact hfirst
    | ok a =>
      have hlater := hf a around next hfirst.1
      exact ⟨hlater.1, hlater.2.trans hfirst.2⟩

theorem OnlyAverages.attempt (hx : OnlyAverages x) : OnlyAverages (Service.attempt x) := by
  intro around state h
  rw [run_attempt]
  exact hx around state h

theorem onlyAverages_write (a : Aggregate) (school value : Datum) :
    OnlyAverages (a.write school {} value) := by
  intro around state h
  unfold Aggregate.write
  cases hloses : around.losesUpdates with
  | true =>
    rw [run_update_lost _ hloses]
    exact ⟨h, rfl⟩
  | false =>
    rw [run_update _ hloses, writable_average, List.isEmpty_cons, if_neg Bool.false_ne_true]
    cases hupdate : state.database.update .schools school [(a.targetField, value)] with
    | error failure => exact ⟨h, rfl⟩
    | ok result =>
      refine ⟨sound_of_update h .schools (forColumns_average a value) hupdate, ?_⟩
      have hsame := unaveraged_of_update h a hupdate
      unfold State.unaveraged
      dsimp only
      rw [hsame]

/-- Finding leaves the state as it is, whether the store is within reach or not. -/
theorem quiet_find (store : Store) (c : Collection) (s : Selection) : Quiet (store.find c s) := by
  have hconnect : Quiet store.connect := by
    unfold Store.connect
    split
    · exact fun _ _ => rfl
    · exact spares_fail _
  unfold Store.find
  refine Spares.bind ?_ fun clauses => hconnect.bind fun db => spares_ofExcept _
  intro around state
  rw [run_compile]

theorem quiet_compute (a : Aggregate) (school : Datum) (store : Store) :
    Quiet (a.compute school store) := by
  unfold Aggregate.compute
  refine (quiet_find _ _ _).bind fun records => (spares_ofExcept _).bind fun mean => ?_
  cases mean with
  | none => exact spares_pure _
  | some mean => exact (spares_ofExcept _).map

/-- Refreshing changes nothing but averages if computing and writing do not. -/
theorem onlyAverages_refreshBy (a : Aggregate) (school : Datum)
    {compute : Service (Option Datum)} {write : Datum → Service (Option Record)}
    (hcompute : OnlyAverages compute) (hwrite : ∀ value, OnlyAverages (write value)) :
    OnlyAverages (a.refreshBy school compute write) := by
  unfold Aggregate.refreshBy
  refine hcompute.bind fun average => ?_
  cases average with
  | none => exact onlyAverages_log _ _
  | some value =>
    refine (hwrite value).bind fun written => ?_
    cases written with
    | none => exact onlyAverages_log _ _
    | some record => exact onlyAverages_log _ _

/-! ## Settling -/

/-- The operation gives an answer, and changes nothing but averages and the log. -/
def Settles (x : Service α) (a : α) : Prop :=
  OnlyAverages x ∧ ∀ around state, state.database.Sound → (run x around state).1 = .ok a

theorem settles_pure (a : α) : Settles (pure a : Service α) a :=
  ⟨onlyAverages_quiet (spares_pure a), fun _ _ _ => rfl⟩

theorem Settles.bind {f : α → Service β} {a : α} {b : β} (hx : Settles x a) (hf : Settles (f a) b) :
    Settles (x >>= f) b := by
  have hrun (around : Surroundings) (state : State) (h : state.database.Sound) :
      run (x >>= f) around state = run (f a) around (run x around state).2 := by
    have hanswer := hx.2 around state h
    rw [run_bind]
    cases hrun : run x around state with
    | mk result next =>
      rw [hrun] at hanswer
      rw [show result = .ok a from hanswer]
  constructor
  · intro around state h
    have hfirst := hx.1 around state h
    have hlater := hf.1 around _ hfirst.1
    rw [hrun around state h]
    exact ⟨hlater.1, hlater.2.trans hfirst.2⟩
  · intro around state h
    rw [hrun around state h]
    exact hf.2 around _ (hx.1 around state h).1

/-- A loop whose steps all settle. -/
theorem Settles.forIn {ι : Type} {f : ι → PUnit → Service (ForInStep PUnit)}
    (hf : ∀ i, Settles (f i ⟨⟩) (.yield ⟨⟩)) (items : List ι) :
    Settles (forIn items PUnit.unit f) ⟨⟩ := by
  induction items with
  | nil => exact settles_pure _
  | cons i rest ih =>
    rw [List.forIn_cons]
    exact (hf i).bind ih

/-- Whatever a refreshment comes to, settling it answers nothing. -/
theorem settles_settle (a : Aggregate) (school : Datum) {refresh : Service Unit}
    (hrefresh : OnlyAverages refresh) : Settles (a.settle school refresh) () := by
  unfold Aggregate.settle
  constructor
  · refine hrefresh.attempt.bind fun result => ?_
    cases result with
    | error failure => exact onlyAverages_log _ _
    | ok done => exact onlyAverages_quiet (spares_pure _)
  · intro around state h
    rw [run_bind, run_attempt]
    cases (run refresh around state).1 <;> rfl

/-- A way of recomputing averages that answers nothing and changes nothing but averages. -/
def Settled (recompute : Aggregate.Recomputing) : Prop :=
  ∀ a school, Settles (recompute a school {}) ()

theorem settled_recompute : Settled Aggregate.recompute := fun a school =>
  settles_settle a school
    (onlyAverages_refreshBy a school (onlyAverages_quiet (quiet_compute a school {}))
      (onlyAverages_write a school))

/-! ## Two runs -/

/-- On every sound database the operations give the same answer or failure, and leave the same state but
for averages and the log. -/
def Alike (x y : Service α) : Prop :=
  ∀ around state, state.database.Sound → (run x around state).1 = (run y around state).1 ∧
    (run x around state).2.unaveraged = (run y around state).2.unaveraged

/-- The operation leaves a sound database sound. -/
def KeepsSound (x : Service α) : Prop :=
  ∀ around state, state.database.Sound → (run x around state).2.database.Sound

theorem Alike.refl (x : Service α) : Alike x x := fun _ _ _ => ⟨rfl, rfl⟩

theorem Settles.alike {a : α} (hx : Settles x a) (hy : Settles y a) : Alike x y := fun around state h =>
  ⟨(hx.2 around state h).trans (hy.2 around state h).symm,
    (hx.1 around state h).2.trans (hy.1 around state h).2.symm⟩

theorem alike_bind {f g : α → Service β} (hx : KeepsSound x) (h : ∀ a, Alike (f a) (g a)) :
    Alike (x >>= f) (x >>= g) := by
  intro around state hstate
  have hsound := hx around state hstate
  rw [run_bind, run_bind]
  cases hrun : run x around state with
  | mk result next =>
    rw [hrun] at hsound
    cases result with
    | error failure => exact ⟨rfl, rfl⟩
    | ok a => exact h a around next hsound

theorem Alike.map {f : α → β} (h : Alike x y) : Alike (f <$> x) (f <$> y) := by
  intro around state hstate
  have hboth := h around state hstate
  rw [run_map, run_map]
  exact ⟨congrArg (Except.map f) hboth.1, hboth.2⟩

theorem Spares.keepsSound {x : Service α} (h : Spares State.database x) : KeepsSound x :=
  fun around state hstate => by rw [h around state]; exact hstate

/-- Beginning with reading. -/
theorem alike_read_bind {f g : α → Service β} (hx : Spares State.database x)
    (h : ∀ a, Alike (f a) (g a)) : Alike (x >>= f) (x >>= g) :=
  alike_bind hx.keepsSound h

/-- An operation keeps the database sound if its outcomes do. -/
theorem keepsSound_of_achieves
    (h : ∀ around db, db.Sound → Achieves around db x fun _ after => after.Sound) :
    KeepsSound x := by
  intro around state hstate
  have houtcome := h around _ hstate state rfl
  cases hresult : (run x around state).1 with
  | error failure =>
    rw [hresult] at houtcome
    have hsame : (run x around state).2.database = state.database := houtcome
    rw [hsame]
    exact hstate
  | ok a =>
    rw [hresult] at houtcome
    exact houtcome

variable {c : Collection} {l : Layout}

theorem keepsSound_insert (k : Kept c l) (values : Record) :
    KeepsSound (({} : Store).insert c values) := by
  refine keepsSound_of_achieves fun around db h => (achieves_insert h k values).weaken ?_
  rintro record after ⟨row, hadds, rfl, _⟩
  exact hadds.sound

theorem keepsSound_update (k : Kept c l) (id : Datum) (values : Record) :
    KeepsSound (({} : Store).update c id values) := by
  refine keepsSound_of_achieves fun around db h => (achieves_update h k id values).weaken ?_
  rintro found after (⟨_, rfl, _⟩ | ⟨old, row, _, hamends, rfl, _⟩)
  · exact h
  · exact hamends.sound

theorem keepsSound_delete (k : Kept c l) (id : Datum) :
    KeepsSound (({} : Store).delete c id) := by
  refine keepsSound_of_achieves fun around db h => (achieves_delete h k id).weaken ?_
  rintro found after (⟨_, rfl, _⟩ | ⟨_, old, _, _, hdeleted⟩)
  · exact h
  · exact hdeleted.sound h

theorem KeepsSound.wording {report : Violation → Service α} (hx : KeepsSound x)
    (hreport : ∀ rule, KeepsSound (report rule)) : KeepsSound (Service.wording x report) := by
  intro around state hstate
  have h := hx around state hstate
  rw [run_wording]
  split
  next rule next hrun =>
    rw [hrun] at h
    exact hreport rule around next h
  next => exact h

/-! ## Operations that recompute -/

variable {recompute other : Aggregate.Recomputing}

/-- What comes after a write: a line of the log, and the average. -/
theorem alike_finish (hrecompute : Settled recompute) (hother : Settled other) (a : Aggregate)
    (school : Datum) (text : String) :
    Alike (do Service.info text; recompute a school {}) (do Service.info text; other a school {}) :=
  alike_read_bind (spares_info lasting_database text) fun _ =>
    (hrecompute a school).alike (hother a school)

theorem alike_finish_return (hrecompute : Settled recompute) (hother : Settled other) (a : Aggregate)
    (school : Datum) (text : String) (record : Record) :
    Alike (do Service.info text; recompute a school {}; return record)
      (do Service.info text; other a school {}; return record) :=
  alike_read_bind (spares_info lasting_database text) fun _ =>
    ((hrecompute a school).bind (settles_pure record)).alike
      ((hother a school).bind (settles_pure record))

theorem alike_createCourse (hrecompute : Settled recompute) (hother : Settled other) (school : Datum)
    (draft : CourseDraft) (caller : Caller) :
    Alike (Courses.create school draft caller recompute) (Courses.create school draft caller other) := by
  unfold Courses.create
  refine alike_read_bind (spares_getRecord _ _ _) fun found => ?_
  cases found with
  | none => exact .refl _
  | some owner =>
    refine alike_read_bind (spares_ofExcept _) fun _ => ?_
    exact alike_bind (keepsSound_insert .courses _) fun course =>
      alike_finish_return hrecompute hother .cost _ _ _

theorem alike_updateCourse (hrecompute : Settled recompute) (hother : Settled other) (id : Datum)
    (change : CourseChange) (caller : Caller) :
    Alike (Courses.update id change caller recompute) (Courses.update id change caller other) := by
  unfold Courses.update
  refine alike_read_bind (spares_findCourse id) fun course => ?_
  refine alike_read_bind (spares_ofExcept _) fun _ => ?_
  refine alike_bind (keepsSound_update .courses id _) fun updated => ?_
  cases updated with
  | none => exact .refl _
  | some course => exact alike_finish_return hrecompute hother .cost _ _ _

theorem alike_deleteCourse (hrecompute : Settled recompute) (hother : Settled other) (id : Datum)
    (caller : Caller) :
    Alike (Courses.delete id caller recompute) (Courses.delete id caller other) := by
  unfold Courses.delete
  refine alike_read_bind (spares_findCourse id) fun course => ?_
  refine alike_read_bind (spares_ofExcept _) fun _ => ?_
  exact alike_bind (keepsSound_delete .courses id) fun _ => alike_finish hrecompute hother .cost _ _

theorem alike_createReview (hrecompute : Settled recompute) (hother : Settled other) (school : Datum)
    (draft : ReviewDraft) (caller : Caller) :
    Alike (Reviews.create school draft caller recompute) (Reviews.create school draft caller other) := by
  unfold Reviews.create
  refine alike_read_bind (spares_getRecord _ _ _) fun found => ?_
  have hinsert (values : Record) (text : Violation → String) (failure : Failure) :
      KeepsSound (Service.wording (({} : Store).insert .reviews values) fun violation => do
        Service.info (text violation)
        Service.fail failure) :=
    (keepsSound_insert .reviews values).wording fun _ =>
      ((spares_info lasting_database _).bind fun _ => spares_fail _).keepsSound
  split
  · exact alike_read_bind (spares_fail _) fun _ => alike_bind (hinsert _ _ _) fun review =>
      alike_finish_return hrecompute hother .rating _ _ _
  · exact alike_bind (hinsert _ _ _) fun review =>
      alike_finish_return hrecompute hother .rating _ _ _

theorem alike_updateReview (hrecompute : Settled recompute) (hother : Settled other) (id : Datum)
    (change : ReviewChange) (caller : Caller) :
    Alike (Reviews.update id change caller recompute) (Reviews.update id change caller other) := by
  unfold Reviews.update
  refine alike_read_bind (spares_findReview id) fun review => ?_
  refine alike_read_bind (spares_ofExcept _) fun _ => ?_
  refine alike_bind (keepsSound_update .reviews id _) fun updated => ?_
  cases updated with
  | none => exact .refl _
  | some review => exact alike_finish_return hrecompute hother .rating _ _ _

theorem alike_deleteReview (hrecompute : Settled recompute) (hother : Settled other) (id : Datum)
    (caller : Caller) :
    Alike (Reviews.delete id caller recompute) (Reviews.delete id caller other) := by
  unfold Reviews.delete
  refine alike_read_bind (spares_findReview id) fun review => ?_
  refine alike_read_bind (spares_ofExcept _) fun _ => ?_
  exact alike_bind (keepsSound_delete .reviews id) fun _ => alike_finish hrecompute hother .rating _ _

/-- Recomputing an average of several schools, one after the other. -/
theorem settles_recomputeAll (hrecompute : Settled recompute) (a : Aggregate) (schools : List Int) :
    Settles (forIn schools PUnit.unit fun s _ => do
      recompute a (.int s) {}
      pure (ForInStep.yield PUnit.unit)) ⟨⟩ :=
  Settles.forIn (fun s => (hrecompute a (.int s)).bind (settles_pure (ForInStep.yield PUnit.unit)))
    schools

theorem settles_recomputeBoth (hrecompute : Settled recompute) (costs ratings : List Int) :
    Settles (do
      for school in costs do
        recompute .cost (.int school) {}
      for school in ratings do
        recompute .rating (.int school) {}) () :=
  (settles_recomputeAll hrecompute .cost costs).bind
    ((settles_recomputeAll hrecompute .rating ratings).bind (settles_pure _))

theorem alike_deleteAccount (hrecompute : Settled recompute) (hother : Settled other) (id : Datum) :
    Alike (Accounts.delete id recompute) (Accounts.delete id other) := by
  unfold Accounts.delete
  refine alike_read_bind (spares_getAccount id) fun _ => ?_
  refine alike_read_bind (spares_find _ _) fun schools => ?_
  refine alike_read_bind (spares_find _ _) fun courses => ?_
  refine alike_read_bind (spares_find _ _) fun reviews => ?_
  refine alike_bind (keepsSound_delete .users id) fun _ => ?_
  refine alike_read_bind (spares_info lasting_database _) fun _ => ?_
  exact (settles_recomputeBoth hrecompute _ _).alike (settles_recomputeBoth hother _ _)

end Service

open Service

/-! ## Mishaps -/

/-- What goes wrong when an average is recomputed. -/
inductive Mishap where
  /-- Computing the average fails. -/
  | uncomputed (failure : Failure)
  /-- Writing the average fails. -/
  | unwritten (failure : Failure)
  /-- Writing the average fails when it is written already. -/
  | interrupted (failure : Failure)
  /-- The school is reported missing. -/
  | unfound

namespace Aggregate

/-- Refreshes a school's average, if nothing goes wrong. -/
def refreshAmid (a : Aggregate) (school : Datum) (store : Store) : Option Mishap → Service Unit
  | none => a.refresh school store
  | some (.uncomputed failure) =>
    a.refreshBy school (Service.fail failure) (a.write school store)
  | some (.unwritten failure) =>
    a.refreshBy school (a.compute school store) fun _ => Service.fail failure
  | some (.interrupted failure) =>
    a.refreshBy school (a.compute school store) fun value => do
      let _ ← a.write school store value
      Service.fail failure
  | some .unfound => a.refreshBy school (a.compute school store) fun _ => return none

/-- Recomputes averages amid mishaps, which may befall each average of each school. -/
def recomputeAmid (mishaps : Aggregate → Datum → Option Mishap) : Recomputing :=
  fun a school store => a.settle school (a.refreshAmid school store (mishaps a school))

end Aggregate

theorem settled_amid (mishaps : Aggregate → Datum → Option Mishap) :
    Settled (Aggregate.recomputeAmid mishaps) := by
  intro a school
  refine settles_settle a school ?_
  have hcompute := onlyAverages_quiet (quiet_compute a school {})
  have hwrite := onlyAverages_write a school
  have hfail {α : Type} (failure : Failure) : OnlyAverages (Service.fail failure : Service α) :=
    onlyAverages_quiet (spares_fail failure)
  cases mishaps a school with
  | none => exact onlyAverages_refreshBy a school hcompute hwrite
  | some mishap =>
    cases mishap with
    | uncomputed failure => exact onlyAverages_refreshBy a school (hfail failure) hwrite
    | unwritten failure => exact onlyAverages_refreshBy a school hcompute fun _ => hfail failure
    | interrupted failure =>
      exact onlyAverages_refreshBy a school hcompute fun value =>
        (hwrite value).bind fun _ => hfail failure
    | unfound =>
      exact onlyAverages_refreshBy a school hcompute fun _ => onlyAverages_quiet (spares_pure none)

namespace Operation

/-- No operation depends on the way in which averages are recomputed, as long as that settles. -/
theorem alike_perform {recompute other : Aggregate.Recomputing} (hrecompute : Settled recompute)
    (hother : Settled other) (operation : Operation) :
    Alike (operation.perform recompute) (operation.perform other) := by
  cases operation with
  | createCourse school draft caller =>
    exact (alike_createCourse hrecompute hother school draft caller).map
  | updateCourse id change caller => exact (alike_updateCourse hrecompute hother id change caller).map
  | deleteCourse id caller => exact (alike_deleteCourse hrecompute hother id caller).map
  | createReview school draft caller =>
    exact (alike_createReview hrecompute hother school draft caller).map
  | updateReview id change caller => exact (alike_updateReview hrecompute hother id change caller).map
  | deleteReview id caller => exact (alike_deleteReview hrecompute hother id caller).map
  | deleteAccount id => exact (alike_deleteAccount hrecompute hother id).map
  | _ => exact .refl _

/-- After every run, an operation gives the same answer or failure whether its recomputations go well or
meet with any mishaps, and the state that it leaves is the same but for the averages of schools and for
the log. -/
theorem alike_amid_mishaps (requests : List (Surroundings × Operation)) (around : Surroundings)
    (operation : Operation) (mishaps : Aggregate → Datum → Option Mishap) :
    let before := runAll .fresh requests
    let calmly := Service.run operation.perform around before
    let amid := Service.run (operation.perform (Aggregate.recomputeAmid mishaps)) around before
    amid.1 = calmly.1 ∧ amid.2.unaveraged = calmly.2.unaveraged :=
  alike_perform (settled_amid mishaps) settled_recompute operation around _
    (sound_run sound_fresh requests)

end Operation

end SchoolCatalog
