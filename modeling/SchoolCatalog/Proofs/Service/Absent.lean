import SchoolCatalog.Proofs.Access.Password
import SchoolCatalog.Proofs.Service.Answers
import SchoolCatalog.Proofs.Service.Runs

/-!
# Records that are not there

Reading, changing or deleting a record by an identity that no record has, storing a photo for such a
school, or adding a course or review to it, reports that the record is missing, whoever asks and whatever
is given for it. An identity that does not fit the store is reported as such instead: it cannot be looked
up. Either way nothing changes but the count of salts, since a password is hashed before its account is
looked for.

Results:
1. `record?_absent`, `update_absent`: an identity that no row has.
2. `Halts`: operations that fail and change nothing.
3. `halts_perform`: operations on a record that is not there.
-/

namespace SchoolCatalog

open Store Store.Database

/-! ## What is looked for -/

namespace Missing

/-- The table in which something is looked for. -/
def layout : Missing → Layout
  | school _ | parentSchool _ => .schools
  | course _ => .courses
  | review _ | shownReview _ => .reviews
  | account _ => .users

/-- The identity by which something is looked for. -/
def id : Missing → Datum
  | school id | parentSchool id | course id | review id | shownReview id | account id => id

/-- What is reported of an identity that no record has. -/
def failure (what : Missing) (i : Int) : Failure :=
  if Number.fitsWord i then .missing what else .outOfRange

end Missing

/-- The record that an operation needs, by what is said if it is not there. -/
def Operation.needs? : Operation → Option Missing
  | getSchool id | updateSchool id _ _ | deleteSchool id _ | uploadPhoto id _ _ _ _ => some (.school id)
  | getCourse id | updateCourse id _ _ | deleteCourse id _ => some (.course id)
  | createCourse school _ _ | createReview school _ _ => some (.parentSchool school)
  | getReview id => some (.shownReview id)
  | updateReview id _ _ | deleteReview id _ => some (.review id)
  | getAccount id | updateAccount id _ | deleteAccount id => some (.account id)
  | _ => none

/-! ## Tables without the row -/

namespace Store.Database

variable {db : Database} {c : Collection} {l : Layout} {values : Record} {i : Int}

/-- No row of a table has an identity. -/
def Lacks (db : Database) (l : Layout) (i : Int) : Prop := ∀ row ∈ db.rows l.name, row.id ≠ i

theorem Lacks.not_denotes (h : db.Lacks l i) {row : Row} (hrow : row ∈ db.rows l.name) :
    ¬ (Datum.int i).Denotes row.id :=
  fun hdenotes => h row hrow hdenotes.eq_of_int.symm

/-- Looking up an identity that no row has. -/
theorem record?_absent (h : db.Sound) (k : Kept c l) (hlacks : db.Lacks l i)
    (projection : Option (List String)) : db.record? c (.int i) projection =
      if Number.fitsWord i then .ok none else .error .outOfRange := by
  by_cases hfits : Number.fitsWord i = true
  · have hbind : Cell.bind (.int i) = .ok (.int i) := if_pos hfits
    have hnone : (db.rows l.name).find? (keyed l "id" (.int i)) = none := by
      refine List.find?_eq_none.2 fun row hrow hkeyed => hlacks.not_denotes hrow ?_
      exact (keyed_id h k hbind hrow).1 hkeyed
    rw [record?_eq h k, hbind, if_pos hfits]
    show Except.ok (Option.map _ ((db.rows l.name).find? (keyed l "id" (.int i)))) = _
    rw [hnone]
    rfl
  · have hbind : Cell.bind (.int i) = .error .outOfRange := if_neg hfits
    rw [record?_eq h k, hbind, if_neg hfits]
    rfl

/-- Writing values under an identity that no row has. -/
theorem update_absent (h : db.Sound) (k : Kept c l) (hlacks : db.Lacks l i) (hvalues : ForColumns c values)
    (hnodup : (Record.names values).Nodup) (hbound : ∀ entry ∈ values, ∃ v, Cell.bind entry.2 = .ok v) :
    db.update c (.int i) values = if Number.fitsWord i then .ok (db, false) else .error .outOfRange := by
  have hassign : ∃ a, l.assign values = .ok a := by
    rw [assign_eq k hvalues]
    refine exists_mapM_ok fun entry hentry => ?_
    obtain ⟨v, hv⟩ := hbound entry hentry
    exact ⟨_, congrArg (Except.map _) hv⟩
  obtain ⟨a, hassign⟩ := hassign
  unfold update
  rw [check_values k hvalues hnodup, h.standing.table_eq k]
  show (l.assign values >>= fun _ => Cell.bind (.int i) >>= _) = _
  rw [hassign]
  show (Cell.bind (.int i) >>= _) = _
  by_cases hfits : Number.fitsWord i = true
  · have hbind : Cell.bind (.int i) = .ok (.int i) := if_pos hfits
    have hnone : (db.rows l.name).find? (hasId (.int i)) = none := by
      refine List.find?_eq_none.2 fun row hrow hhas => hlacks.not_denotes hrow ?_
      have hidentity := h.isIdentity k.mem_standard hrow
      exact ⟨.int i, hbind, (hasId_iff (Cell.bind_proper hbind) hidentity).1 hhas⟩
    rw [if_pos hfits]
    refine bind_eq_ok.2 ⟨_, hbind, ?_⟩
    dsimp only
    rw [hnone]
    rfl
  · have hbind : Cell.bind (.int i) = .error .outOfRange := if_neg hfits
    rw [hbind, if_neg hfits]
    rfl

end Store.Database

/-! ## Operations that fail -/

namespace Service

variable {α β : Type} {around : Surroundings} {state : State} {c : Collection} {l : Layout} {i : Int}
  {x : Service α} {failure : Failure} {what : Missing}

/-- The operation fails and changes nothing, but that it may have drawn salts. -/
def Halts (around : Surroundings) (state : State) (x : Service α) (failure : Failure) : Prop :=
  ∃ salts, run x around state = (.error failure, { state with salts })

theorem Halts.bind (h : Halts around state x failure) (f : α → Service β) :
    Halts around state (x >>= f) failure := by
  obtain ⟨salts, hrun⟩ := h
  exact ⟨salts, by rw [run_bind, hrun]⟩

theorem Halts.map (h : Halts around state x failure) (f : α → β) :
    Halts around state (f <$> x) failure := by
  obtain ⟨salts, hrun⟩ := h
  exact ⟨salts, by rw [run_map, hrun]; rfl⟩

/-- What is done with a record that is looked up by an identity that no row has. -/
theorem halts_lookup (h : state.database.Sound) (k : Kept c l) (hlacks : state.database.Lacks l i)
    (projection : Option (List String)) {f : Option Record → Service α}
    (hnone : run (f none) around state = (.error (.missing what), state)) :
    Halts around state (({} : Store).get c (.int i) projection >>= f) (what.failure i) := by
  refine ⟨state.salts, ?_⟩
  rw [run_bind, run_getRecord, record?_absent h k hlacks, Missing.failure]
  by_cases hfits : Number.fitsWord i = true
  · rw [if_pos hfits, if_pos hfits]
    exact hnone
  · rw [if_neg hfits, if_neg hfits]

theorem run_update_absent (h : state.database.Sound) (k : Kept c l) (hlacks : state.database.Lacks l i)
    (working : around.losesUpdates = false) {values : Record} (hnodup : (Record.names values).Nodup)
    (hbound : ∀ entry ∈ values, ∃ v, Cell.bind entry.2 = .ok v) :
    run (({} : Store).update c (.int i) values) around state =
      (if Number.fitsWord i then .ok none else .error .outOfRange, state) := by
  rw [run_update c working]
  split
  next => rw [record?_absent h k hlacks]
  next =>
    rw [update_absent h k hlacks (forColumns_writable c values) (nodup_writable hnodup)
      fun entry hentry => hbound entry (mem_writable hentry)]
    by_cases hfits : Number.fitsWord i = true
    · rw [if_pos hfits, if_pos hfits]
      rfl
    · rw [if_neg hfits, if_neg hfits]

/-- What a change of an account writes is worked out with one salt at most. -/
theorem run_changedAccount (hiterations : 1 ≤ around.iterations ∧ around.iterations ≤ Password.mostIterations)
    (change : AccountChange) : ∃ values salts, ChangedAccount around change values ∧
      run (Accounts.changedValues change) around state = (.ok values, { state with salts }) := by
  unfold Accounts.changedValues
  cases hpassword : change.password with
  | none =>
    exact ⟨_, state.salts, ⟨none, by rw [hpassword]; exact .none, rfl⟩, rfl⟩
  | some password =>
    obtain ⟨kept, hkept⟩ := Password.keep_of_iterations hiterations.1 hiterations.2 password
      (around.salt (state.salts + 1))
    refine ⟨_, state.salts + 1, ⟨some kept, by rw [hpassword]; exact .some ⟨_, hkept⟩, rfl⟩, ?_⟩
    simp only [Accounts.keepPassword, run_bind, run_map, run_nextSalt, run_read, run_ofExcept, hkept]
    rfl

/-- A change of an account gives texts for different fields. -/
theorem ChangedAccount.bound {change : AccountChange} {values : Record}
    (h : ChangedAccount around change values) :
    (Record.names values).Nodup ∧ ∀ entry ∈ values, ∃ v, Cell.bind entry.2 = .ok v := by
  obtain ⟨kept, _, rfl⟩ := h
  have hnames : ["name", "email", "role", "password"].Nodup := by decide
  refine ⟨hnames.sublist (names_given _), fun entry hentry => ?_⟩
  have hfield := mem_given hentry
  simp only [AccountChange.fields, List.mem_cons, Prod.mk.injEq, Option.map_eq_some_iff,
    List.not_mem_nil, or_false, eq_comm (a := some entry.2)] at hfield
  obtain ⟨_, s, _, hs⟩ | ⟨_, s, _, hs⟩ | ⟨_, s, _, hs⟩ | ⟨_, s, _, hs⟩ := hfield
  all_goals exact ⟨.text s, hs ▸ rfl⟩

theorem halts_updateAccount (h : state.database.Sound) (hlacks : state.database.Lacks .users i)
    (working : around.losesUpdates = false)
    (hiterations : 1 ≤ around.iterations ∧ around.iterations ≤ Password.mostIterations)
    (change : AccountChange) :
    Halts around state (Accounts.update (.int i) change) (Missing.failure (.account (.int i)) i) := by
  obtain ⟨values, salts, hvalues, hrun⟩ := @run_changedAccount around state hiterations change
  obtain ⟨hnodup, hbound⟩ := hvalues.bound
  have hsound : ({ state with salts } : State).database.Sound := h
  have hupdate := run_update_absent hsound .users hlacks working hnodup hbound
  refine ⟨salts, ?_⟩
  unfold Accounts.update
  rw [run_bind, hrun]
  dsimp only
  rw [run_bind, run_wording, hupdate, Missing.failure]
  by_cases hfits : Number.fitsWord i = true
  · rw [if_pos hfits, if_pos hfits]
    rfl
  · rw [if_neg hfits, if_neg hfits]

end Service

namespace Operation

open Service

variable {around : Surroundings} {state : State} {operation : Operation} {what : Missing} {i : Int}

/-- An operation on a record that is not there fails and changes nothing, whoever asks for it. -/
theorem halts_perform (h : state.database.Sound) (working : around.losesUpdates = false)
    (hiterations : 1 ≤ around.iterations ∧ around.iterations ≤ Password.mostIterations)
    (hneeds : operation.needs? = some what) (hid : what.id = .int i)
    (hlacks : state.database.Lacks what.layout i) :
    Halts around state operation.perform (what.failure i) := by
  cases operation with
  | getSchool =>
    cases hneeds
    cases hid
    exact (halts_lookup h .schools hlacks none rfl).map _
  | updateSchool | deleteSchool =>
    cases hneeds
    cases hid
    exact ((halts_lookup h .schools hlacks none rfl).bind _).map _
  | uploadPhoto =>
    cases hneeds
    cases hid
    exact (((halts_lookup h .schools hlacks none rfl).bind _).bind _).map _
  | getCourse | updateCourse | deleteCourse =>
    cases hneeds
    cases hid
    exact ((halts_lookup h .courses hlacks none rfl).bind _).map _
  | createCourse =>
    cases hneeds
    cases hid
    exact (halts_lookup h .schools hlacks none rfl).map _
  | createReview =>
    cases hneeds
    cases hid
    exact (halts_lookup h .schools hlacks _ rfl).map _
  | getReview =>
    cases hneeds
    cases hid
    exact (halts_lookup h .reviews hlacks none rfl).map _
  | updateReview | deleteReview =>
    cases hneeds
    cases hid
    exact ((halts_lookup h .reviews hlacks none rfl).bind _).map _
  | getAccount =>
    cases hneeds
    cases hid
    exact (halts_lookup h .users hlacks none rfl).map _
  | updateAccount id change =>
    cases hneeds
    cases hid
    exact (halts_updateAccount h hlacks working hiterations change).map _
  | deleteAccount =>
    cases hneeds
    cases hid
    exact ((halts_lookup h .users hlacks none rfl).bind _).map _
  | _ => exact nomatch hneeds

end Operation
end SchoolCatalog
