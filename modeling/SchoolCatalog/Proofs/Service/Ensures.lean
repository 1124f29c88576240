import SchoolCatalog.Proofs.Calendar
import SchoolCatalog.Proofs.Service.Sparing

/-!
# What operations do to the database

`Ensures` says of an operation, started on a database, what holds of its result and of the database
that it leaves; what else the state keeps plays no part. It goes through the ways of building operations,
so that an operation is taken apart step by step. `Reads` says that an operation leaves the database as
it is, whatever it answers.

Results:
1. `Ensures.bind`, `Ensures.wording`, `Ensures.attempt`: the rules for building operations.
2. `ensures_insert`, `ensures_update`, `ensures_delete`: writing is one change of the database.
-/

namespace SchoolCatalog

open Store

namespace Service

variable {α β : Type} {around : Surroundings} {db : Database} {c : Collection}

/-- What holds of the result of an operation and of the database that it leaves. -/
def Ensures (around : Surroundings) (db : Database) (x : Service α)
    (post : Except Failure α → Database → Prop) : Prop :=
  ∀ state, state.database = db → post (run x around state).1 (run x around state).2.database

/-- The operation leaves the database as it is. -/
abbrev Reads (x : Service α) : Prop := Spares State.database x

variable {post : Except Failure α → Database → Prop} {x : Service α}

theorem Ensures.weaken {weaker : Except Failure α → Database → Prop}
    (h : Ensures around db x post) (himp : ∀ result after, post result after → weaker result after) :
    Ensures around db x weaker :=
  fun state hstate => himp _ _ (h state hstate)

theorem Spares.ensures (h : Reads x) (hpost : ∀ result, post result db) :
    Ensures around db x post := by
  intro state hstate
  rw [h around state, hstate]
  exact hpost _

/-! ## Rules -/

theorem Ensures.pure {a : α} (h : post (.ok a) db) :
    Ensures around db (Pure.pure a : Service α) post := by
  rintro state rfl
  exact h

theorem Ensures.fail {failure : Failure} (h : post (.error failure) db) :
    Ensures around db (Service.fail failure : Service α) post := by
  rintro state rfl
  exact h

/-- Nothing comes after a failure. -/
theorem Ensures.fail_bind {failure : Failure} {f : α → Service β}
    {post : Except Failure β → Database → Prop} (h : post (.error failure) db) :
    Ensures around db (Service.fail failure >>= f) post := by
  rintro state rfl
  exact h

theorem Ensures.ofExcept {result : Except Failure α} (h : post result db) :
    Ensures around db (Service.ofExcept result) post := by
  rintro state rfl
  rw [run_ofExcept]
  exact h

theorem Ensures.bind {between : Except Failure α → Database → Prop} {f : α → Service β}
    {post : Except Failure β → Database → Prop} (hx : Ensures around db x between)
    (hok : ∀ a middle, between (.ok a) middle → Ensures around middle (f a) post)
    (herror : ∀ failure middle, between (.error failure) middle → post (.error failure) middle) :
    Ensures around db (x >>= f) post := by
  intro state hstate
  have h := hx state hstate
  rw [run_bind]
  cases hrun : run x around state with
  | mk result next =>
    rw [hrun] at h
    cases result with
    | ok a => exact hok a next.database h next rfl
    | error failure => exact herror failure next.database h

/-- An operation that begins with reading: it fails there, or goes on with the same database. -/
theorem Ensures.read_bind {f : α → Service β} {post : Except Failure β → Database → Prop}
    (hx : Reads x) (hok : ∀ a, Ensures around db (f a) post)
    (herror : ∀ failure, post (.error failure) db) : Ensures around db (x >>= f) post := by
  have hsame : Ensures around db x fun _ after => after = db := hx.ensures fun _ => rfl
  refine hsame.bind ?_ ?_
  · rintro a _ rfl
    exact hok a
  · rintro failure _ rfl
    exact herror failure

theorem Ensures.map {f : α → β} {post : Except Failure β → Database → Prop}
    (hx : Ensures around db x fun result after => post (result.map f) after) :
    Ensures around db (f <$> x) post := by
  intro state hstate
  rw [run_map]
  exact hx state hstate

theorem Ensures.wording {report : Violation → Service α}
    (hx : Ensures around db x fun result after => match result with
      | .error (.violated rule) => Ensures around after (report rule) post
      | result => post result after) : Ensures around db (Service.wording x report) post := by
  intro state hstate
  have h := hx state hstate
  rw [run_wording]
  cases hrun : run x around state with
  | mk result next =>
    rw [hrun] at h
    rcases result with failure | a
    · cases failure <;> first | exact h | exact h next rfl
    · exact h

theorem Ensures.attempt {post : Except Failure (Except Failure α) → Database → Prop}
    (hx : Ensures around db x fun result after => post (.ok result) after) :
    Ensures around db (Service.attempt x) post := by
  intro state hstate
  rw [run_attempt]
  exact hx state hstate

/-- A line of the log changes nothing that matters. -/
theorem Ensures.info_bind {text : String} {f : Unit → Service β}
    {post : Except Failure β → Database → Prop} (h : Ensures around db (f ()) post) :
    Ensures around db (Service.info text >>= f) post := by
  rintro state rfl
  exact h { state with log := ⟨.info, text⟩ :: state.log } rfl

/-! ## Writing -/

/-- What is found is a matter of the database. -/
theorem ensures_find (s : Selection) :
    Ensures around db (({} : Store).find c s) fun result after =>
      result = db.found c s ∧ after = db := by
  rintro state rfl
  rw [run_find]
  exact ⟨rfl, rfl⟩

theorem ensures_getRecord (id : Datum) (projection : Option (List String)) :
    Ensures around db (({} : Store).get c id projection) fun result after =>
      result = db.record? c id projection ∧ after = db := by
  rintro state rfl
  rw [run_getRecord]
  exact ⟨rfl, rfl⟩

/-- Inserting fails and changes nothing, or adds the values with a stamp and reads the record. -/
theorem ensures_insert (values : Record) :
    Ensures around db (({} : Store).insert c values) fun result after =>
      (after = db ∧ ∃ failure, result = .error failure) ∨
      ∃ stamp id, IsStamp stamp ∧ db.insert c (stamped c values stamp) = .ok (after, id) ∧
        result = (after.record? c (.int id) none).map (·.getD []) := by
  rintro state rfl
  rw [run_insert]
  cases hstamp : stamp? (around.instant state.stamps) with
  | none => exact .inl ⟨rfl, _, rfl⟩
  | some stamp =>
    dsimp only
    cases hinsert : state.database.insert c (stamped c values stamp) with
    | error failure => exact .inl ⟨rfl, _, rfl⟩
    | ok result => exact .inr ⟨stamp, result.2, ⟨_, hstamp⟩, hinsert, rfl⟩

/-- An update that gets lost changes nothing. Updating with no values only reads the record; else it
fails and changes nothing, or writes the values and reads the record if there is one. -/
theorem ensures_update (id : Datum) (values : Record) :
    Ensures around db (({} : Store).update c id values) fun result after =>
      (around.losesUpdates = true ∧ after = db ∧ result = .ok none) ∨
      ((writable c values).isEmpty = true ∧ after = db ∧ result = db.record? c id none) ∨
      (∃ failure, db.update c id (writable c values) = .error failure ∧ after = db ∧
        result = .error failure) ∨
      ∃ found, db.update c id (writable c values) = .ok (after, found) ∧
        result = if found then after.record? c id none else .ok none := by
  rintro state rfl
  cases hloses : around.losesUpdates with
  | true =>
    rw [run_update_lost c hloses]
    exact .inl ⟨rfl, rfl, rfl⟩
  | false =>
    right
    rw [run_update c hloses]
    split
    next hempty => exact .inl ⟨hempty, rfl, rfl⟩
    next =>
      cases hupdate : state.database.update c id (writable c values) with
      | error failure => exact .inr (.inl ⟨failure, rfl, rfl, rfl⟩)
      | ok result => exact .inr (.inr ⟨result.2, rfl, rfl⟩)

/-- Deleting fails and changes nothing, or deletes. -/
theorem ensures_delete (id : Datum) :
    Ensures around db (({} : Store).delete c id) fun result after =>
      (after = db ∧ ∃ failure, result = .error failure) ∨
      ∃ found, db.delete c id = .ok (after, found) ∧ result = .ok found := by
  rintro state rfl
  rw [run_delete]
  cases state.database.delete c id with
  | error failure => exact .inl ⟨rfl, _, rfl⟩
  | ok result => exact .inr ⟨result.2, rfl, rfl⟩

end Service
end SchoolCatalog
