import SchoolCatalog.Proofs.Record
import SchoolCatalog.Proofs.Service.Ensures
import SchoolCatalog.Proofs.Store.Accepting
import SchoolCatalog.Proofs.Store.Cascade
import SchoolCatalog.Proofs.Store.Finding

/-!
# Outcomes of operations

What an operation on a sound database achieves: if it fails, the database is as it was, and if it
answers, the answer and the database are as described. The rules go through the ways of building
operations, and there is one outcome for each way of writing: a row is added, amended or removed with
all that goes with it. An update that gets lost is answered like one that finds nothing.

Results:
1. `Achieves.bind`, `Finds.bind`, `Achieves.wording`: the rules for building operations.
2. `achieves_insert`, `achieves_update`, `achieves_delete`: the outcomes of writing.
3. `finds_record`: looking up a record finds that of a row.
-/

namespace SchoolCatalog

open Store Store.Database

namespace Store

variable {db after : Database} {c : Collection} {l : Layout} {values : Record} {stamp : String}

/-! ## Stamped values -/

open Service (stamped)

theorem mem_writable {entry : String × Datum} (h : entry ∈ writable c values) : entry ∈ values :=
  (List.mem_filter.1 h).1

/-- A stamped record holds the values that are written, and the stamp of its creation. -/
theorem mem_stamped {entry : String × Datum} (h : entry ∈ stamped c values stamp) :
    entry ∈ writable c values ∨ entry = ("created_at", .text stamp) := by
  unfold stamped at h
  split at h
  · exact .inl h
  · exact Record.mem_put h

/-- A stamped record says when it was created. -/
theorem created_stamped (c : Collection) (values : Record) (stamp : String) :
    ∃ d, ("created_at", d) ∈ stamped c values stamp := by
  unfold stamped
  split
  next hgiven =>
    obtain ⟨entry, hentry, hname⟩ := List.lookup_isSome_iff.1 hgiven
    exact ⟨entry.2, (beq_iff_eq.1 hname : "created_at" = entry.1) ▸ hentry⟩
  next => exact ⟨_, Record.mem_put_self _ _ _⟩

theorem stamped_of_mem {entry : String × Datum} (h : entry ∈ writable c values)
    (hne : entry.1 ≠ "created_at") : entry ∈ stamped c values stamp := by
  unfold stamped
  split
  · exact h
  · exact Record.mem_put_of_ne h hne

/-- Values for columns of their own are written as they are given. -/
theorem mem_stamped_of (k : Kept c l) {col : Column} (hcol : col ∈ l.columns) {d : Datum}
    (hd : (col.name, d) ∈ values) (hne : col.name ≠ "created_at") :
    (col.name, d) ∈ stamped c values stamp := by
  obtain ⟨hdeclared, hid⟩ := forColumns_single k hcol d _ (List.mem_singleton_self _)
  refine stamped_of_mem (List.mem_filter.2 ⟨hd, ?_⟩) hne
  simpa [hasField_iff] using ⟨hdeclared, hid⟩

theorem nodup_writable (h : (Record.names values).Nodup) :
    (Record.names (writable c values)).Nodup :=
  h.sublist (List.filter_sublist.map _)

theorem nodup_stamped (h : (Record.names values).Nodup) :
    (Record.names (stamped c values stamp)).Nodup := by
  unfold stamped
  split
  · exact nodup_writable h
  · exact Record.nodup_put (nodup_writable h) _ _

theorem writable_eq (h : ForColumns c values) : writable c values = values := by
  refine List.filter_eq_self.2 fun entry hentry => ?_
  obtain ⟨hdeclared, hne⟩ := h entry hentry
  rw [Bool.and_eq_true, hasField_iff, bne_iff_ne]
  exact ⟨hdeclared, hne⟩

/-- Values without a stamp get one. -/
theorem stamped_eq (h : ForColumns c values) (hunstamped : "created_at" ∉ Record.names values)
    (stamp : String) : stamped c values stamp = values ++ [("created_at", .text stamp)] := by
  rw [stamped, writable_eq h, Record.has_eq_false hunstamped, if_neg (by decide),
    Record.put_new hunstamped]

theorem forColumns_stamped (k : Kept c l) (values : Record) (stamp : String) :
    ForColumns c (stamped c values stamp) := by
  intro entry h
  rcases mem_stamped h with h | rfl
  · exact forColumns_writable c values entry h
  · have hfield : "created_at" ∈ c.fieldNames := by cases k <;> decide
    exact ⟨hfield, (by decide : "created_at" ≠ "id")⟩

/-! ## What is written -/

/-- The record of a row with all fields that are shown. -/
def Row.record (c : Collection) (l : Layout) (row : Row) : Record :=
  recordOf c (l.shown (columns c none false)) row

/-- A field of the record of a row. -/
theorem field_record (k : Kept c l) (row : Row) {f : String} (hf : f ∈ c.visibleFields) :
    Record.field (row.record c l) f = shown c f (row.read (fieldReference f)) := by
  obtain ⟨hnodup, _, hdeclared⟩ := columns_spec k none false
  exact field_recordOf k hnodup hdeclared row hf

/-- The record of a row shows the identity that a key holds. -/
theorem key_of_record (h : db.Sound) (k : Kept c l) {f : String} (hf : IsKey c l f) {row : Row}
    (hrow : row ∈ db.rows l.name) :
    ∃ i, row.read (fieldReference f) = .int i ∧ Record.field (row.record c l) f = .int i ∧
      (Datum.int i).Denotes i := by
  obtain ⟨i, hread, hi⟩ := read_key h k hf hrow
  refine ⟨i, hread, ?_, Datum.denotes_int hi.proper⟩
  rw [field_record k row hf.1, hread, shown, kind_key k hf]
  rfl

/-- A row that is added for values: it has the next identity and is written with a stamp. -/
structure Database.Adds (db : Database) (c : Collection) (l : Layout) (values : Record) (row : Row) :
    Prop where
  sound : (db.grown l row).Sound
  next : row.id = db.greatestHandedOut l.name + 1
  written : ∃ stamp, IsStamp stamp ∧ ∀ col ∈ l.columns,
    Written (stamped c values stamp) col col.default (row.cell col.name)

/-- A row that takes the place of another, with values written over those of that one. -/
structure Database.Amends (db : Database) (c : Collection) (l : Layout) (values : Record)
    (old row : Row) : Prop where
  sound : (db.amended l row).Sound
  mem : old ∈ db.rows l.name
  same : row.id = old.id
  written : ∀ col ∈ l.columns, Written (writable c values) col (old.cell col.name) (row.cell col.name)

namespace Database

theorem mem_grown_self (h : db.Sound) (hl : l ∈ Layout.standard) (row : Row) :
    row ∈ (db.grown l row).rows l.name := by
  rw [rows_grown h hl row hl, if_pos rfl]
  exact List.mem_append_right _ (List.mem_singleton_self _)

theorem mem_amended_self (h : db.Sound) (hl : l ∈ Layout.standard) {old row : Row}
    (hold : old ∈ db.rows l.name) (hid : row.id = old.id) : row ∈ (db.amended l row).rows l.name := by
  rw [rows_amended h hl row hl, if_pos rfl]
  exact List.mem_map.2 ⟨old, hold, if_pos hid.symm⟩

/-- A row that was added is found by its identity. -/
theorem record?_grown (h : db.Sound) (k : Kept c l) {row : Row} (hsound : (db.grown l row).Sound) :
    (db.grown l row).record? c (.int row.id) none = .ok (some (row.record c l)) := by
  have hmem := mem_grown_self h k.mem_standard row
  have hid := Datum.denotes_int (hsound.isIdentity k.mem_standard hmem).proper
  exact record?_of_denotes hsound k hmem hid none

/-- A row that was amended is found by what stands for its identity. -/
theorem record?_amended (h : db.Sound) (k : Kept c l) {old row : Row} (hold : old ∈ db.rows l.name)
    (hsame : row.id = old.id) (hsound : (db.amended l row).Sound) {id : Datum} (hid : id.Denotes old.id) :
    (db.amended l row).record? c id none = .ok (some (row.record c l)) :=
  record?_of_denotes hsound k (mem_amended_self h k.mem_standard hold hsame) (hsame.symm ▸ hid) none

/-- Writing a row over itself changes nothing. -/
theorem amended_self (h : db.Sound) (hl : l ∈ Layout.standard) {old : Row}
    (hold : old ∈ db.rows l.name) : db.amended l old = db := by
  have hrows : ((db.rows l.name).map fun r => if r.id = old.id then old else r) = db.rows l.name := by
    refine (List.map_congr_left fun r hr => ?_).trans (List.map_id _)
    split
    next hsame => exact (h.eq_of_id hl hr hold hsame).symm
    next => rfl
  have htables : (db.tables.map fun t => if t.layout.name = l.name then ⟨l, db.rows l.name⟩ else t) =
      db.tables := by
    refine (List.map_congr_left fun t ht => ?_).trans (List.map_id _)
    split
    next hname => exact h.standing.eq_of_name (h.standing.table_mem hl) ht hname.symm
    next => rfl
  unfold amended setTable
  rw [hrows]
  dsimp only
  rw [htables]

theorem amends_self (h : db.Sound) (hl : l ∈ Layout.standard) {old : Row}
    (hold : old ∈ db.rows l.name) (hempty : (writable c values).isEmpty = true) :
    db.Amends c l values old old where
  sound := (amended_self h hl hold).symm ▸ h
  mem := hold
  same := rfl
  written col _ := by
    rw [List.isEmpty_iff.1 hempty]
    exact .inr ⟨fun _ hd => (nomatch hd), rfl⟩

end Database

end Store

namespace Service

variable {α β : Type} {around : Surroundings} {db mid after : Database} {c : Collection} {l : Layout}
  {values : Record} {x : Service α}

/-! ## Rules -/

/-- A failure leaves the database as it was, and an answer comes with what is said to be done. -/
def Outcome (db : Database) (done : α → Database → Prop) : Except Failure α → Database → Prop
  | .error _, after => after = db
  | .ok a, after => done a after

/-- The operation has an outcome. -/
def Achieves (around : Surroundings) (db : Database) (x : Service α) (done : α → Database → Prop) :
    Prop :=
  Ensures around db x (Outcome db done)

/-- The operation leaves the database as it is, and something is known of its answer. -/
def Finds (around : Surroundings) (db : Database) (x : Service α) (known : α → Prop) : Prop :=
  Achieves around db x fun a after => after = db ∧ known a

variable {done : α → Database → Prop} {known : α → Prop}

theorem Achieves.weaken {weaker : α → Database → Prop} (h : Achieves around db x done)
    (himp : ∀ a after, done a after → weaker a after) : Achieves around db x weaker := by
  refine Ensures.weaken h fun result after hresult => ?_
  cases result with
  | error failure => exact hresult
  | ok a => exact himp a after hresult

/-- What an operation that answers has done. -/
theorem Achieves.of_isOk (h : Achieves around db x done) {state : State} (hstate : state.database = db)
    (hok : (run x around state).1.isOk = true) : ∃ a, done a (run x around state).2.database := by
  have houtcome := h state hstate
  rcases hrun : run x around state with ⟨failure | a, next⟩
  · rw [hrun] at hok
    exact nomatch hok
  · rw [hrun] at houtcome
    exact ⟨a, houtcome⟩

/-- What was found out of an operation that answers. -/
theorem Achieves.of_run (h : Achieves around db x done) {state : State} (hstate : state.database = db)
    {a : α} (hrun : (run x around state).1 = .ok a) : done a (run x around state).2.database := by
  have houtcome := h state hstate
  rwa [hrun] at houtcome

theorem Achieves.of_eq (h : Achieves around db x done) {state next : State} (hstate : state.database = db)
    {a : α} (hrun : run x around state = (.ok a, next)) : done a next.database := by
  have houtcome := h.of_run hstate (congrArg Prod.fst hrun)
  rwa [hrun] at houtcome

/-- An operation that fails leaves the database as it was. -/
theorem Achieves.of_failed (h : Achieves around db x done) {state : State} (hstate : state.database = db)
    {failure : Failure} (hrun : (run x around state).1 = .error failure) :
    (run x around state).2.database = db := by
  have houtcome := h state hstate
  rwa [hrun] at houtcome

theorem Finds.weaken {weaker : α → Prop} (h : Finds around db x known)
    (himp : ∀ a, known a → weaker a) : Finds around db x weaker :=
  Achieves.weaken h fun a _ hknown => ⟨hknown.1, himp a hknown.2⟩

theorem achieves_pure {a : α} (h : done a db) : Achieves around db (pure a : Service α) done :=
  Ensures.pure h

theorem achieves_fail (failure : Failure) :
    Achieves around db (Service.fail failure : Service α) done :=
  Ensures.fail rfl

theorem Achieves.map {f : α → β} {done : β → Database → Prop}
    (h : Achieves around db x fun a after => done (f a) after) : Achieves around db (f <$> x) done := by
  refine Ensures.map (Ensures.weaken h fun result after hresult => ?_)
  cases result <;> exact hresult

theorem Achieves.bind {f : α → Service β} {later : β → Database → Prop}
    (hx : Achieves around db x done)
    (hf : ∀ a mid, done a mid → Ensures around mid (f a) (Outcome db later)) :
    Achieves around db (x >>= f) later :=
  Ensures.bind hx hf fun _ _ hsame => hsame

/-- An operation that begins with finding something out. -/
theorem Finds.bind {f : α → Service β} {later : β → Database → Prop} (hx : Finds around db x known)
    (hf : ∀ a, known a → Achieves around db (f a) later) : Achieves around db (x >>= f) later := by
  refine Achieves.bind hx ?_
  rintro a _ ⟨rfl, hknown⟩
  exact hf a hknown

theorem Spares.finds (hx : Reads x) : Finds around db x fun _ => True := by
  refine hx.ensures fun result => ?_
  cases result with
  | error failure => exact rfl
  | ok a => exact ⟨rfl, trivial⟩

/-- An operation that begins with reading. -/
theorem Achieves.read_bind {f : α → Service β} {later : β → Database → Prop} (hx : Reads x)
    (hf : ∀ a, Achieves around db (f a) later) : Achieves around db (x >>= f) later :=
  Finds.bind hx.finds fun a _ => hf a

theorem finds_pure {a : α} (h : known a) : Finds around db (pure a : Service α) known :=
  achieves_pure ⟨rfl, h⟩

theorem finds_ofExcept (result : Except Failure α) :
    Finds around db (Service.ofExcept result) fun a => result = .ok a := by
  cases result with
  | error failure => exact achieves_fail failure
  | ok a => exact achieves_pure ⟨rfl, rfl⟩

theorem finds_surroundings : Finds around db (MonadReader.read : Service Surroundings) (· = around) := by
  rintro state rfl
  exact ⟨rfl, rfl⟩

/-- Reporting a broken rule in other words leaves the outcome as it is. -/
theorem Achieves.wording {report : Violation → Service α} (hx : Achieves around db x done)
    (hreport : ∀ rule, Achieves around db (report rule) done) :
    Achieves around db (Service.wording x report) done := by
  refine Ensures.wording (Ensures.weaken hx fun result after hresult => ?_)
  split
  next _ rule =>
    obtain rfl : after = db := hresult
    exact hreport rule
  next => exact hresult

/-- A line of the log at the end changes nothing of what was done. -/
theorem ensures_done {later : Unit → Database → Prop} (h : later () mid) (text : String) :
    Ensures around mid (Service.info text) (Outcome db later) := by
  rintro state rfl
  exact h

theorem ensures_done_info {later : β → Database → Prop} {b : β} (h : later b mid) (text : String) :
    Ensures around mid (do Service.info text; return b) (Outcome db later) :=
  Ensures.info_bind (Ensures.pure h)

/-! ## Looking up -/

/-- An operation whose result is a matter of the database. -/
theorem finds_of_eq {answer : Except Failure α}
    (hx : Ensures around db x fun result after => result = answer ∧ after = db) :
    Finds around db x fun a => answer = .ok a := by
  refine Ensures.weaken hx ?_
  rintro result after ⟨rfl, hsame⟩
  cases result with
  | error failure => exact hsame
  | ok a => exact ⟨hsame, rfl⟩

/-- Looking up a record finds that of a row. -/
theorem finds_record (h : db.Sound) (k : Kept c l) (id : Datum) (missing : Failure) :
    Finds around db (do
      match ← ({} : Store).get c id none with
      | some record => return record
      | none => Service.fail missing) fun record =>
        ∃ row ∈ db.rows l.name, id.Denotes row.id ∧ record = row.record c l := by
  refine (finds_of_eq (ensures_getRecord id none)).bind fun found hrecord => ?_
  cases found with
  | none => exact achieves_fail missing
  | some record => exact finds_pure (of_record?_some h k hrecord)

/-- A row with an identity that a caller may change. -/
structure Allows (db : Database) (c : Collection) (l : Layout) (caller : Caller) (id : Datum)
    (old : Row) : Prop where
  mem : old ∈ db.rows l.name
  denotes : id.Denotes old.id
  mayChange : caller.mayChange (old.record c l) = true

theorem finds_ensureOwner (caller : Caller) (record : Record) (action : String) :
    Finds around db (Service.ofExcept (caller.ensureOwner record action)) fun _ =>
      caller.mayChange record = true := by
  refine (finds_ofExcept _).weaken fun _ hok => ?_
  unfold Caller.ensureOwner at hok
  split at hok
  next hmay => exact hmay
  next => exact nomatch hok

/-- Looking up what a caller is going to change, and whether the caller may. -/
theorem Finds.owned_bind (_ : Kept c l) {record : Service Record} {id : Datum} {caller : Caller}
    {action : String}
    {f : Record → Service β} {later : β → Database → Prop}
    (hrecord : Finds around db record fun found =>
      ∃ row ∈ db.rows l.name, id.Denotes row.id ∧ found = row.record c l)
    (hf : ∀ old, Allows db c l caller id old → Achieves around db (f (old.record c l)) later) :
    Achieves around db (do
      let found ← record
      Service.ofExcept (caller.ensureOwner found action)
      f found) later := by
  refine hrecord.bind ?_
  rintro _ ⟨old, hold, hid, rfl⟩
  exact (finds_ensureOwner caller _ action).bind fun _ hmay => hf old ⟨hold, hid, hmay⟩

/-! ## Writing -/

/-- Inserting adds a row and answers with its record. -/
theorem achieves_insert (h : db.Sound) (k : Kept c l) (values : Record) :
    Achieves around db (({} : Store).insert c values) fun record after =>
      ∃ row, db.Adds c l values row ∧ after = db.grown l row ∧ record = row.record c l := by
  refine (ensures_insert values).weaken ?_
  rintro result after (⟨rfl, failure, rfl⟩ | ⟨stamp, id, hstamp, hinsert, rfl⟩)
  · exact rfl
  · obtain ⟨row, rfl, rfl, hsound, hnext, hwritten⟩ :=
      insert_spec h k (forColumns_stamped k values stamp) hinsert
    rw [record?_grown h k hsound]
    exact ⟨row, ⟨hsound, hnext, stamp, hstamp, hwritten⟩, rfl, rfl⟩

/-- Updating amends a row and answers with its record; or it gets lost or finds no row, and changes
nothing. -/
theorem achieves_update (h : db.Sound) (k : Kept c l) (id : Datum) (values : Record) :
    Achieves around db (({} : Store).update c id values) fun found after =>
      (found = none ∧ after = db ∧
        (around.losesUpdates = true ∨ ∀ row ∈ db.rows l.name, ¬ id.Denotes row.id)) ∨
      ∃ old row, id.Denotes old.id ∧ db.Amends c l values old row ∧ after = db.amended l row ∧
        found = some (row.record c l) := by
  refine (ensures_update id values).weaken ?_
  rintro result after (⟨hlost, rfl, rfl⟩ | ⟨hempty, rfl, rfl⟩ | ⟨failure, _, rfl, rfl⟩ |
    ⟨found, hupdate, rfl⟩)
  · exact .inl ⟨rfl, rfl, .inl hlost⟩
  · -- nothing to write, so that the record is only read
    cases hrecord : after.record? c id none with
    | error failure => exact rfl
    | ok record =>
      cases record with
      | none =>
        refine .inl ⟨rfl, rfl, .inr fun row hrow hid => ?_⟩
        exact nomatch hrecord.symm.trans (record?_of_denotes h k hrow hid none)
      | some record =>
        obtain ⟨row, hrow, hid, rfl⟩ := of_record?_some h k hrecord
        exact .inr ⟨row, row, hid, amends_self h k.mem_standard hrow hempty,
          (amended_self h k.mem_standard hrow).symm, rfl⟩
  · exact rfl
  · rcases update_spec h k (forColumns_writable c values) hupdate with
      ⟨rfl, rfl, hnone⟩ | ⟨rfl, old, hold, row, hid, hsame, rfl, hsound, hwritten⟩
    · exact .inl ⟨rfl, rfl, .inr hnone⟩
    · rw [if_pos rfl, record?_amended h k hold hsame hsound hid]
      exact .inr ⟨old, row, hid, ⟨hsound, hold, hsame, hwritten⟩, rfl, rfl⟩

/-- Deleting takes out all that goes with a row, or finds none and changes nothing. -/
theorem achieves_delete (h : db.Sound) (k : Kept c l) (id : Datum) :
    Achieves around db (({} : Store).delete c id) fun found after =>
      (found = false ∧ after = db ∧ ∀ row ∈ db.rows l.name, ¬ id.Denotes row.id) ∨
        found = true ∧ ∃ old ∈ db.rows l.name, id.Denotes old.id ∧ Deleted db l.name old.id after := by
  refine (ensures_delete id).weaken ?_
  rintro result after (⟨rfl, failure, rfl⟩ | ⟨found, hdelete, rfl⟩)
  · exact rfl
  · rcases delete_spec h k hdelete with hnone | ⟨hfound, old, hold, hid, hdeleted, _⟩
    · exact .inl hnone
    · exact .inr ⟨hfound, old, hold, hid, hdeleted⟩

end Service
end SchoolCatalog
