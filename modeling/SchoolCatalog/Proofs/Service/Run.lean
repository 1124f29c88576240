import Mathlib
import SchoolCatalog.Service.Store

/-!
# Running services

What running an operation answers and which state it leaves, one equation for each way of building
an operation. `Database.found`, `Database.counted` and `Database.record?` say as plain functions of a
database what the reading services answer; reading leaves the state as it is.

Results:
1. `run_bind`, `run_tryCatch`: an operation goes on from the state that the one before it left,
   whether that one answered or failed.
2. `run_find`, `run_get`, `run_count`: reading is a function of the database.
3. `run_insert`, `run_update`, `run_delete`: writing is one change of the database.
-/

namespace SchoolCatalog

namespace Service

variable {α β : Type} {around : Surroundings} {state : State}

/-! ## Building blocks -/

@[simp] theorem run_pure (a : α) : run (pure a) around state = (.ok a, state) := rfl

@[simp] theorem run_fail (failure : Failure) :
    run (fail failure : Service α) around state = (.error failure, state) := rfl

@[simp] theorem run_read : run read around state = (.ok around, state) := rfl

@[simp] theorem run_get : run get around state = (.ok state, state) := rfl

@[simp] theorem run_set (next : State) : run (set next) around state = (.ok ⟨⟩, next) := rfl

@[simp] theorem run_modify (f : State → State) :
    run (modify f) around state = (.ok ⟨⟩, f state) := rfl

@[simp] theorem run_ofExcept (result : Except Failure α) :
    run (ofExcept result) around state = (result, state) := by
  cases result <;> rfl

@[simp] theorem run_log (level : LogLevel) (text : String) :
    run (log level text) around state =
      (.ok (), { state with log := ⟨level, text⟩ :: state.log }) := rfl

@[simp] theorem run_info (text : String) :
    run (info text) around state =
      (.ok (), { state with log := ⟨.info, text⟩ :: state.log }) := rfl

theorem run_bind (x : Service α) (f : α → Service β) :
    run (x >>= f) around state =
      match run x around state with
      | (.ok a, next) => run (f a) around next
      | (.error failure, next) => (.error failure, next) := by
  simp only [run, ReaderT.run_bind, ExceptT.run_bind, StateT.run_bind, Id.run_bind]
  rcases (ReaderT.run x around).run.run state with ⟨_ | _, _⟩ <;> rfl

theorem run_map (f : α → β) (x : Service α) :
    run (f <$> x) around state = ((run x around state).1.map f, (run x around state).2) := by
  rw [map_eq_pure_bind, run_bind]
  rcases run x around state with ⟨_ | _, _⟩ <;> rfl

theorem run_tryCatch (x : Service α) (handle : Failure → Service α) :
    run (tryCatch x handle) around state =
      match run x around state with
      | (.ok a, next) => (.ok a, next)
      | (.error failure, next) => run (handle failure) around next := by
  have unfolded : ReaderT.run (tryCatch x handle) around =
      tryCatch (ReaderT.run x around) fun failure => ReaderT.run (handle failure) around := rfl
  simp only [run]
  rw [unfolded, ExceptT.run_tryCatch, StateT.run_bind, Id.run_bind]
  rcases (ReaderT.run x around).run.run state with ⟨_ | _, _⟩ <;> rfl

theorem run_attempt (x : Service α) :
    run (attempt x) around state = (.ok (run x around state).1, (run x around state).2) := by
  rw [attempt, run_tryCatch, map_eq_pure_bind, run_bind]
  rcases run x around state with ⟨_ | _, _⟩ <;> rfl

theorem run_wording (x : Service α) (report : Violation → Service α) :
    run (wording x report) around state =
      match run x around state with
      | (.error (.violated rule), next) => run (report rule) around next
      | result => result := by
  rw [wording, run_tryCatch]
  rcases run x around state with ⟨failure | _, _⟩
  · cases failure <;> rfl
  · rfl

theorem run_nextStamp :
    run nextStamp around state =
      (match stamp? (around.instant state.stamps) with
        | some stamp => .ok stamp
        | none => .error .outOfRange,
       { state with stamps := state.stamps + 1 }) := by
  simp only [nextStamp, run_bind, run_read, run_get, run_set]
  cases stamp? (around.instant state.stamps) <;> rfl

@[simp] theorem run_nextSalt :
    run nextSalt around state =
      (.ok (around.salt (state.salts + 1)), { state with salts := state.salts + 1 }) := rfl

end Service

/-! ## Reading records -/

namespace Store

/-- The records that a selection finds in a database. -/
def Database.found (db : Database) (c : Collection) (s : Selection) :
    Except Failure (List Record) :=
  match Condition.clauses? c s.conditions with
  | some clauses => db.select c clauses s
  | none => .error .mistyped

/-- How many records satisfy conditions. -/
def Database.counted (db : Database) (c : Collection) (conditions : List Condition) :
    Except Failure Nat :=
  match Condition.clauses? c conditions with
  | some clauses => db.count c clauses
  | none => .error .mistyped

/-- The record with an identity. -/
def Database.record? (db : Database) (c : Collection) (id : Datum)
    (projection : Option (List String)) : Except Failure (Option Record) :=
  (db.found c { conditions := [⟨"id", .eq, id⟩], projection, limit := some 1 }).map List.head?

end Store

open Store

namespace Service

variable {around : Surroundings} {state : State} (c : Collection)

@[simp] theorem run_connect :
    run ({} : Store).connect around state = (.ok state.database, state) := rfl

theorem run_compile (conditions : List Condition) :
    run (Store.compile c conditions) around state =
      (match Condition.clauses? c conditions with
        | some clauses => .ok clauses
        | none => .error .mistyped, state) := by
  rw [Store.compile]
  cases Condition.clauses? c conditions <;> rfl

theorem run_find (s : Selection) :
    run (({} : Store).find c s) around state = (state.database.found c s, state) := by
  simp only [Store.find, Database.found, run_bind, run_compile]
  cases Condition.clauses? c s.conditions <;> simp

theorem run_findOne (conditions : List Condition) (includeHidden : Bool) :
    run (({} : Store).findOne c conditions includeHidden) around state =
      ((state.database.found c { conditions, limit := some 1, includeHidden }).map List.head?,
        state) := by
  simp only [Store.findOne, run_bind, run_find]
  cases state.database.found c { conditions, limit := some 1, includeHidden } <;> rfl

theorem run_getRecord (id : Datum) (projection : Option (List String)) :
    run (({} : Store).get c id projection) around state =
      (state.database.record? c id projection, state) := by
  simp only [Store.get, Database.record?, run_bind, run_find]
  cases state.database.found c
    { conditions := [⟨"id", .eq, id⟩], projection, limit := some 1 } <;> rfl

theorem run_count (conditions : List Condition) :
    run (({} : Store).count c conditions) around state =
      (state.database.counted c conditions, state) := by
  simp only [Store.count, Database.counted, run_bind, run_compile]
  cases Condition.clauses? c conditions <;> simp

/-! ## Writing records -/

/-- The values that are inserted: those that the collection declares, with a stamp where none is
given. -/
def stamped (values : Record) (stamp : String) : Record :=
  if Record.has (writable c values) "created_at" then writable c values
  else Record.put (writable c values) "created_at" (.text stamp)

/-- Inserting draws a stamp, changes the database and reads the new record. -/
theorem run_insert (values : Record) :
    run (({} : Store).insert c values) around state =
      match stamp? (around.instant state.stamps) with
      | none => (.error .outOfRange, { state with stamps := state.stamps + 1 })
      | some stamp => match state.database.insert c (stamped c values stamp) with
        | .error failure => (.error failure, { state with stamps := state.stamps + 1 })
        | .ok (db, id) => ((db.record? c (.int id) none).map (·.getD []),
            { state with stamps := state.stamps + 1, database := db }) := by
  simp only [Store.insert, Store.insert?, run_map, run_bind, run_nextStamp]
  cases stamp? (around.instant state.stamps) with
  | none => rfl
  | some stamp =>
    simp only [run_connect, run_ofExcept, stamped]
    cases state.database.insert c _ with
    | error failure => rfl
    | ok result => simp [run_getRecord]

/-- Writing over a record changes the database and reads the record. -/
theorem run_update (working : around.losesUpdates = false) (id : Datum) (values : Record) :
    run (({} : Store).update c id values) around state =
      if (writable c values).isEmpty then (state.database.record? c id none, state)
      else match state.database.update c id (writable c values) with
        | .error failure => (.error failure, state)
        | .ok (db, found) =>
          (if found then db.record? c id none else .ok none, { state with database := db }) := by
  simp only [Store.update, run_bind, run_read, working, Bool.or_false]
  by_cases empty : (writable c values).isEmpty
  · simp [empty, run_getRecord]
  · simp only [empty, Bool.false_eq_true, if_false, run_bind, run_connect, run_ofExcept]
    cases state.database.update c id (writable c values) with
    | error failure => rfl
    | ok result => rcases result with ⟨db, _ | _⟩ <;> simp [run_getRecord]

/-- An update that gets lost is answered like one of a record that is not there. -/
theorem run_update_lost (lost : around.losesUpdates = true) (id : Datum) (values : Record) :
    run (({} : Store).update c id values) around state = (.ok none, state) := by
  simp only [Store.update, run_bind, run_read, lost, Bool.or_true, if_true, run_pure]

theorem run_delete (id : Datum) :
    run (({} : Store).delete c id) around state =
      match state.database.delete c id with
      | .error failure => (.error failure, state)
      | .ok (db, found) => (.ok found, { state with database := db }) := by
  simp only [Store.delete, run_bind, run_connect, run_ofExcept]
  cases state.database.delete c id <;> rfl

end Service
end SchoolCatalog
