import SchoolCatalog.Proofs.Service.Run

/-!
# How an operation ends

The end of one run of an operation: its result, and the database that it leaves. Where `Ensures` speaks of
every state with a database, this speaks of one state, since what an insertion does is also a matter of the
stamp that is drawn.

Results:
1. `Ends.bind`, `Ends.of_bind`, `Ends.wording`, `Ends.of_wording`: the parts of an operation.
2. `ends_insert`, `Ends.inserted`, `ends_update`, `Ends.updated`: writing.
-/

namespace SchoolCatalog

open Store

namespace Service

variable {α β : Type} {around : Surroundings} {state : State} {mid after : Database} {x : Service α}
  {a : α} {f : α → Service β} {failure : Failure}

/-- An operation ends with a result and leaves a database. -/
def Ends (around : Surroundings) (state : State) (operation : Service α) (result : Except Failure α)
    (after : Database) : Prop :=
  ∃ next, run operation around state = (result, next) ∧ next.database = after

/-- An operation that succeeds ends with a value. -/
theorem exists_ends (h : (run x around state).1.isOk = true) :
    ∃ a, Ends around state x (.ok a) (run x around state).2.database := by
  rcases hrun : run x around state with ⟨failure | a, next⟩
  · rw [hrun] at h
    exact nomatch h
  · exact ⟨a, next, hrun, rfl⟩

theorem Ends.congr {y : Service α} {result : Except Failure α} (h : Ends around state x result after)
    (hsame : run y around state = run x around state) : Ends around state y result after := by
  obtain ⟨next, hrun, hafter⟩ := h
  exact ⟨next, hsame.trans hrun, hafter⟩

/-! ## Parts -/

theorem Ends.bind {result : Except Failure β} (hx : Ends around state x (.ok a) mid)
    (hf : ∀ next, next.database = mid → Ends around next (f a) result after) :
    Ends around state (x >>= f) result after := by
  obtain ⟨next, hrun, hmid⟩ := hx
  unfold Ends
  rw [run_bind, hrun]
  exact hf next hmid

theorem Ends.fail_bind (hx : Ends around state x (.error failure) after) :
    Ends around state (x >>= f) (.error failure) after := by
  obtain ⟨next, hrun, hafter⟩ := hx
  exact ⟨next, by rw [run_bind, hrun], hafter⟩

/-- Where an operation succeeds, its first part did. -/
theorem Ends.of_bind {b : β} (h : Ends around state (x >>= f) (.ok b) after) :
    ∃ a next, Ends around state x (.ok a) next.database ∧ Ends around next (f a) (.ok b) after := by
  obtain ⟨last, hrun, hafter⟩ := h
  rw [run_bind] at hrun
  rcases hx : run x around state with ⟨failure | a, next⟩
  · rw [hx] at hrun
    exact nomatch hrun
  · rw [hx] at hrun
    exact ⟨a, next, ⟨next, hx, rfl⟩, last, hrun, hafter⟩

theorem Ends.wording {report : Violation → Service α} (hx : Ends around state x (.ok a) after) :
    Ends around state (Service.wording x report) (.ok a) after := by
  obtain ⟨next, hrun, hafter⟩ := hx
  exact ⟨next, by rw [run_wording, hrun], hafter⟩

/-- A failure that breaks no rule is not put in other words. -/
theorem Ends.unworded {report : Violation → Service α} (hx : Ends around state x (.error failure) after)
    (hfailure : ∀ rule, failure ≠ .violated rule) :
    Ends around state (Service.wording x report) (.error failure) after := by
  obtain ⟨next, hrun, hafter⟩ := hx
  refine ⟨next, ?_, hafter⟩
  rw [run_wording, hrun]
  cases failure <;> first | rfl | exact absurd rfl (hfailure _)

theorem Ends.of_wording {report : Violation → Failure}
    (h : Ends around state (Service.wording x fun rule => fail (report rule)) (.ok a) after) :
    Ends around state x (.ok a) after := by
  obtain ⟨last, hrun, hafter⟩ := h
  rw [run_wording] at hrun
  rcases hx : run x around state with ⟨failure | a, next⟩
  · rw [hx] at hrun
    cases failure <;> exact nomatch hrun
  · rw [hx] at hrun
    exact ⟨last, hx.trans hrun, hafter⟩

theorem ends_info_pure (text : String) (record : Record) :
    Ends around state (do Service.info text; return record) (.ok record) state.database :=
  ⟨_, rfl, rfl⟩

/-! ## Writing -/

variable {c : Collection} {values record : Record} {stamp : String}

/-- An insertion that cannot be made leaves the database. -/
theorem ends_insert_error
    (hstamp : stamp? (around.instant state.stamps) = some stamp)
    (hinsert : state.database.insert c (stamped c values stamp) = .error failure) :
    Ends around state (({} : Store).insert c values) (.error failure) state.database := by
  unfold Ends
  rw [run_insert, hstamp]
  dsimp only
  rw [hinsert]
  exact ⟨_, rfl, rfl⟩

theorem ends_insert {id : Int}
    (hstamp : stamp? (around.instant state.stamps) = some stamp)
    (hinsert : state.database.insert c (stamped c values stamp) = .ok (after, id))
    (hrecord : after.record? c (.int id) none = .ok (some record)) :
    Ends around state (({} : Store).insert c values) (.ok record) after := by
  unfold Ends
  rw [run_insert, hstamp]
  dsimp only
  rw [hinsert]
  dsimp only
  rw [hrecord]
  exact ⟨_, rfl, rfl⟩

theorem Ends.inserted
    (h : Ends around state (({} : Store).insert c values) (.ok record) after) :
    ∃ stamp id, stamp? (around.instant state.stamps) = some stamp ∧
      state.database.insert c (stamped c values stamp) = .ok (after, id) := by
  obtain ⟨next, hrun, rfl⟩ := h
  rw [run_insert] at hrun
  cases hstamp : stamp? (around.instant state.stamps) with
  | none =>
    rw [hstamp] at hrun
    exact nomatch hrun
  | some stamp =>
    rw [hstamp] at hrun
    dsimp only at hrun
    cases hinsert : state.database.insert c (stamped c values stamp) with
    | error failure =>
      rw [hinsert] at hrun
      exact nomatch hrun
    | ok written =>
      rw [hinsert] at hrun
      obtain rfl := (Prod.mk.inj hrun).2
      exact ⟨stamp, written.2, rfl, hinsert⟩

/-- An update that cannot be made leaves the database. -/
theorem ends_update_error {id : Datum}
    (working : around.losesUpdates = false) (hsome : (writable c values).isEmpty = false)
    (hupdate : state.database.update c id (writable c values) = .error failure) :
    Ends around state (({} : Store).update c id values) (.error failure) state.database := by
  unfold Ends
  rw [run_update c working, hsome, hupdate]
  exact ⟨_, rfl, rfl⟩

theorem ends_update {id : Datum}
    (working : around.losesUpdates = false) (hsome : (writable c values).isEmpty = false)
    (hupdate : state.database.update c id (writable c values) = .ok (after, true))
    (hrecord : after.record? c id none = .ok (some record)) :
    Ends around state (({} : Store).update c id values) (.ok (some record)) after := by
  unfold Ends
  rw [run_update c working, hsome, hupdate]
  dsimp only
  rw [if_neg Bool.false_ne_true, if_pos rfl, hrecord]
  exact ⟨_, rfl, rfl⟩

theorem Ends.updated {id : Datum}
    (hsome : (writable c values).isEmpty = false)
    (h : Ends around state (({} : Store).update c id values) (.ok (some record)) after) :
    around.losesUpdates = false ∧
      state.database.update c id (writable c values) = .ok (after, true) := by
  obtain ⟨next, hrun, rfl⟩ := h
  cases working : around.losesUpdates with
  | true =>
    rw [run_update_lost c working] at hrun
    exact nomatch hrun
  | false =>
    rw [run_update c working, hsome] at hrun
    cases hupdate : state.database.update c id (writable c values) with
    | error failure =>
      rw [hupdate] at hrun
      exact nomatch hrun
    | ok written =>
      obtain ⟨last, found⟩ := written
      rw [hupdate] at hrun
      cases found with
      | false => exact nomatch hrun
      | true =>
        obtain rfl := (Prod.mk.inj hrun).2
        exact ⟨rfl, rfl⟩

end Service
end SchoolCatalog
