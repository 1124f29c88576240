import SchoolCatalog.Service.Operation
import SchoolCatalog.Proofs.Service.Run

/-!
# What operations leave as it is

`Spares` says of an operation that a part of the state is afterwards what it was before, whatever the
operation answers. It goes through the ways of building operations. Looking records up spares the whole
state; an operation that only reads may log, ask the geocoder and draw salts, and spares all that lasts,
which is the records and the stored files. Writing over a record spares all but the database.

Results:
1. `Spares.bind`, `Spares.wording`, `Spares.mapM`: the rules for building operations.
2. `spares_find`, `spares_answer`: looking up and answering lists.
3. `spares_update`: writing over a record.
4. `spares_inRadius`, `spares_authenticate`: operations that read and leave traces.
-/

namespace SchoolCatalog.Service

open Store

variable {α β γ : Type} {part : State → γ} {x : Service α}

/-- The operation leaves a part of the state as it is. -/
def Spares (part : State → γ) (x : Service α) : Prop :=
  ∀ around state, part (run x around state).2 = part state

/-- A part of the state that the records and the stored files make up. -/
def Lasting (part : State → γ) : Prop :=
  ∀ s t : State, s.database = t.database → s.uploads = t.uploads → part s = part t

theorem lasting_database : Lasting State.database := fun _ _ hsame _ => hsame

theorem lasting_uploads : Lasting State.uploads := fun _ _ _ hsame => hsame

/-- A part of the state that the database has nothing to do with. -/
def Apart (part : State → γ) : Prop :=
  ∀ (state : State) (database : Database), part { state with database } = part state

theorem apart_uploads : Apart State.uploads := fun _ _ => rfl

theorem apart_salts : Apart State.salts := fun _ _ => rfl

theorem Spares.of_eq (h : Spares part x) {around : Surroundings} {state next : State}
    {result : Except Failure α} (hrun : run x around state = (result, next)) : part next = part state := by
  have hspared := h around state
  rwa [hrun] at hspared

/-! ## Rules -/

theorem spares_pure (a : α) : Spares part (pure a : Service α) := fun _ _ => rfl

theorem spares_fail (failure : Failure) : Spares part (fail failure : Service α) := fun _ _ => rfl

theorem spares_ofExcept (result : Except Failure α) : Spares part (ofExcept result) :=
  fun around state => by rw [run_ofExcept]

theorem spares_surroundings : Spares part (MonadReader.read : Service Surroundings) := fun _ _ => rfl

theorem spares_modify {f : State → State} (h : ∀ s, part (f s) = part s) :
    Spares part (modify f : Service PUnit) := fun _ state => h state

theorem Spares.bind {f : α → Service β} (hx : Spares part x) (hf : ∀ a, Spares part (f a)) :
    Spares part (x >>= f) := by
  intro around state
  have h := hx around state
  rw [run_bind]
  cases hrun : run x around state with
  | mk result next =>
    rw [hrun] at h
    cases result with
    | ok a => exact (hf a around next).trans h
    | error failure => exact h

theorem Spares.map {f : α → β} (hx : Spares part x) : Spares part (f <$> x) := by
  intro around state
  rw [run_map]
  exact hx around state

theorem Spares.attempt (hx : Spares part x) : Spares part (Service.attempt x) := by
  intro around state
  rw [run_attempt]
  exact hx around state

theorem Spares.wording {report : Violation → Service α} (hx : Spares part x)
    (hreport : ∀ rule, Spares part (report rule)) : Spares part (Service.wording x report) := by
  intro around state
  have h := hx around state
  rw [run_wording]
  split
  next rule next hrun =>
    rw [hrun] at h
    exact (hreport rule around next).trans h
  next => exact h

theorem Spares.mapM {f : α → Service β} (hf : ∀ a, Spares part (f a)) (items : List α) :
    Spares part (items.mapM f) := by
  induction items with
  | nil =>
    rw [List.mapM_nil]
    exact spares_pure _
  | cons a rest ih =>
    rw [List.mapM_cons]
    exact (hf a).bind fun b => ih.bind fun bs => spares_pure _

theorem Spares.forIn {f : α → β → Service (ForInStep β)} (hf : ∀ a b, Spares part (f a b))
    (items : List α) (start : β) : Spares part (forIn items start f) := by
  induction items generalizing start with
  | nil => exact spares_pure _
  | cons a rest ih =>
    rw [List.forIn_cons]
    refine (hf a start).bind fun next => ?_
    cases next with
    | done b => exact spares_pure _
    | yield b => exact ih b

/-! ## Leaving all of the state as it is -/

/-- The operation leaves all of the state as it is. -/
abbrev Quiet (x : Service α) : Prop := Spares id x

theorem run_quiet_bind {around : Surroundings} {state : State} (hx : Quiet x) (f : α → Service β) :
    run (x >>= f) around state = match (run x around state).1 with
      | .ok a => run (f a) around state
      | .error failure => (.error failure, state) := by
  have hsame := hx around state
  rw [run_bind]
  cases hrun : run x around state with
  | mk result next =>
    rw [hrun] at hsame
    obtain rfl : next = state := hsame
    cases result <;> rfl

/-- What comes after an operation leaves the state that the operation left. -/
theorem run_bind_quiet {around : Surroundings} {state : State} {f : α → Service β}
    (hf : ∀ a, Quiet (f a)) : (run (x >>= f) around state).2 = (run x around state).2 := by
  rw [run_bind]
  cases run x around state with
  | mk result next =>
    cases result with
    | error failure => rfl
    | ok a => exact hf a around next

/-! ## Looking up -/

theorem spares_find (c : Collection) (s : Selection) : Spares part (({} : Store).find c s) :=
  fun around state => by rw [run_find]

theorem spares_findOne (c : Collection) (conditions : List Condition) (includeHidden : Bool) :
    Spares part (({} : Store).findOne c conditions includeHidden) :=
  fun around state => by rw [run_findOne]

theorem spares_getRecord (c : Collection) (id : Datum) (projection : Option (List String)) :
    Spares part (({} : Store).get c id projection) :=
  fun around state => by rw [run_getRecord]

theorem spares_count (c : Collection) (conditions : List Condition) :
    Spares part (({} : Store).count c conditions) :=
  fun around state => by rw [run_count]

theorem spares_populate (records : List Record) (inc : Include) :
    Spares part (({} : Store).populate records inc) := by
  unfold Store.populate
  refine (spares_ofExcept _).bind fun keys => spares_surroundings.bind fun around => ?_
  refine (spares_ofExcept _).bind fun batches => ?_
  refine (Spares.mapM (fun keys => spares_find _ _) batches).bind fun found => ?_
  dsimp only
  split
  · exact (spares_fail _).bind fun _ => spares_pure _
  · exact spares_pure _

/-- Answering a list request leaves the state as it is. -/
theorem spares_answer (c : Collection) (params : Parameters) (inc : Option Include) :
    Spares part (ListRequest.answer c params inc {}) := by
  unfold ListRequest.answer ListRequest.run
  refine spares_surroundings.bind fun around => Spares.bind ?_ fun page => spares_pure _
  refine (spares_count _ _).bind fun total => (spares_find _ _).bind fun records => ?_
  cases inc with
  | none => exact (spares_pure _).bind fun records => spares_pure _
  | some inc =>
    exact (spares_populate records inc).bind fun records =>
      (spares_pure _).bind fun _ => spares_pure _

theorem spares_get (c : Collection) (id : Datum) (missing : Failure) :
    Spares part (do
      match ← ({} : Store).get c id none with
      | some record => return record
      | none => Service.fail missing) :=
  (spares_getRecord c id none).bind fun
    | some _ => spares_pure _
    | none => spares_fail _

theorem spares_getSchool (id : Datum) : Spares part (Schools.get id) := spares_get _ _ _

theorem spares_getAccount (id : Datum) : Spares part (Accounts.get id) := spares_get _ _ _

theorem spares_findCourse (id : Datum) : Spares part (Courses.find {} id) := spares_get _ _ _

theorem spares_findReview (id : Datum) : Spares part (Reviews.find {} id) := spares_get _ _ _

theorem spares_getCourse (id : Datum) : Spares part (Courses.get id) :=
  (spares_findCourse id).bind fun _ => (spares_populate _ _).bind fun _ => spares_pure _

theorem spares_getReview (id : Datum) : Spares part (Reviews.get id) :=
  (spares_getRecord .reviews id none).bind fun
    | some _ => (spares_populate _ _).bind fun _ => spares_pure _
    | none => spares_fail _

/-! ## Writing -/

/-- Writing over a record changes nothing but the database. -/
theorem spares_update (h : Apart part) (c : Collection) (id : Datum) (values : Record) :
    Spares part (({} : Store).update c id values) := by
  intro around state
  cases hloses : around.losesUpdates with
  | true => rw [run_update_lost c hloses]
  | false =>
    rw [run_update c hloses]
    split
    · rfl
    · cases state.database.update c id (writable c values) with
      | error failure => rfl
      | ok result => exact h _ _

/-! ## Reading that leaves traces -/

theorem spares_log (h : Lasting part) (level : LogLevel) (text : String) :
    Spares part (Service.log level text) := fun _ _ => h _ _ rfl rfl

theorem spares_info (h : Lasting part) (text : String) : Spares part (Service.info text) :=
  spares_log h .info text

theorem spares_nextSalt (h : Lasting part) : Spares part nextSalt := fun _ _ => h _ _ rfl rfl

theorem spares_locate (h : Lasting part) (geocoder : Geo.Geocoder) (address : Wording) :
    Spares part (Service.locate geocoder address) := by
  unfold Service.locate
  refine Spares.bind (spares_modify ?_) fun _ => spares_surroundings.bind fun around =>
    spares_ofExcept _
  exact fun _ => h _ _ rfl rfl

theorem spares_inRadius (h : Lasting part) (zipcode : String) (radius : Datum) :
    Spares part (Schools.inRadius zipcode radius) := by
  unfold Schools.inRadius
  refine spares_surroundings.bind fun around => ?_
  split
  · exact spares_fail _
  · exact (spares_locate h _ _).bind fun origin => (spares_find _ _).bind fun schools =>
      (spares_ofExcept _).bind fun measured => spares_pure _

theorem spares_isPasswordOf (password : Wording) (user : Record) :
    Spares part (Accounts.isPasswordOf password user) := by
  unfold Accounts.isPasswordOf
  split
  · exact spares_surroundings.bind fun around => spares_ofExcept _
  · exact spares_fail _

theorem spares_authenticate (h : Lasting part) (email password : Wording) :
    Spares part (Accounts.authenticate email password) := by
  unfold Accounts.authenticate
  refine (spares_findOne _ _ _).bind fun found => ?_
  have hfailed := (spares_info h ("Failed login for " ++ email.lossy)).bind fun _ =>
    spares_pure (none : Option Record)
  cases found with
  | none => exact (spares_pure _).bind (Option.forall.2 ⟨hfailed, fun _ => spares_pure _⟩)
  | some user =>
    exact (spares_isPasswordOf password user).bind fun _ =>
      (spares_pure _).bind (Option.forall.2 ⟨hfailed, fun _ => spares_pure _⟩)

end SchoolCatalog.Service
