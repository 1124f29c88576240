import SchoolCatalog.Proofs.Form.Changes
import SchoolCatalog.Proofs.Json.Records
import SchoolCatalog.Proofs.Service.Locations
import SchoolCatalog.Proofs.Service.Recomputing

/-!
# Changes of one record

What an update makes of the record that it changes and of all others. The record has the values that the
form gives in place of those that it had under these names, and else what it had; a school that moves gets
the location fields of its new address as well. No other row changes, but that a course or review that was
changed may give its school another average.

Values are stored as they are taken from the form, but for the email address and the password of an
account, and for the sign of a zero: a tuition of negative zero becomes zero.

Results:
1. `Amends.full`: the record of a row that was written, by the one before and the values.
2. `stored_schoolChange` and its like: the values that a change gives, as they are stored.
3. `Averaged.eq_withAverage`: recomputing one average of one school.
4. `Amends.revised`, `Amends.revised_dependent`: a row that was amended, and all others.
5. `amends_updateAccount`: what an update of an account writes.
6. `revises_of_run`: an update that succeeds.
-/

namespace SchoolCatalog

open Store Store.Database

open Service

/-! ## Stored values -/

/-- A number without the sign of a zero; any other value is left as it is. -/
def Datum.unsigned : Datum → Datum
  | .real (.finite true 0) => .real .zero
  | d => d

namespace Store

variable {db mid after : Database} {c : Collection} {l : Layout} {values : Record} {row old : Row}
  {name : String}

/-- The record of a row with all its fields, hidden ones too. -/
def Row.full (c : Collection) (l : Layout) (row : Row) : Record := recordOf c (l.shown c.fieldNames) row

/-- What a record shows of a value after it was stored; a value that cannot be stored is left as it
is. -/
def asStored (c : Collection) (l : Layout) (name : String) (d : Datum) : Datum :=
  match Cell.bind d with
  | .ok v => shown c name ((l.affinity (.column name)).store v)
  | .error _ => d

theorem Row.full_eq (k : Kept c l) (row : Row) : row.full c l =
    c.fieldNames.map fun f => (f, shown c f (row.read (fieldReference f))) :=
  recordOf_shown k k.fieldNames_nodup (fun _ hf => hf) row

/-- What is told of a row is its record without the hidden fields. -/
theorem Row.record_eq_filter (k : Kept c l) (row : Row) :
    row.record c l = (row.full c l).filter fun field => !c.isHidden field.1 := by
  obtain ⟨hnodup, _, hdeclared⟩ := columns_spec k none false
  rw [Row.record, recordOf_shown k hnodup hdeclared, row.full_eq k, List.filter_map]
  rfl

/-- The values of a write as they are stored. -/
def storedValues (c : Collection) (l : Layout) (values : Record) : Record :=
  values.map fun entry => (entry.1, asStored c l entry.1 entry.2)

theorem get?_storedValues (values : Record) (name : String) :
    Record.get? (storedValues c l values) name = (Record.get? values name).map (asStored c l name) :=
  lookup_map_values (asStored c l) values name

theorem storedValues_append (values other : Record) :
    storedValues c l (values ++ other) = storedValues c l values ++ storedValues c l other :=
  List.map_append

theorem names_storedValues (values : Record) :
    Record.names (storedValues c l values) = Record.names values := by
  rw [storedValues, Record.names, List.map_map]
  rfl

theorem Row.names_full (k : Kept c l) (row : Row) : Record.names (row.full c l) = c.fieldNames := by
  rw [row.full_eq k, Record.names, List.map_map]
  exact List.map_id _

/-- What is told of a value that was written. -/
theorem Row.Stores.shown_given (hstores : row.Stores l values) (k : Kept c l) {d : Datum}
    (hcolumn : ∃ col ∈ l.columns, col.name = name) (hget : Record.get? values name = some d) :
    shown c name (row.read (fieldReference name)) = asStored c l name d := by
  obtain ⟨col, hcol, rfl⟩ := hcolumn
  obtain ⟨v, hv, hcell⟩ := hstores _ (mem_of_lookup hget)
  rw [k.fieldReference_column hcol, asStored, hv]
  show shown c col.name (row.cell col.name) = _
  rw [hcell]

/-- A field that no value was written for. -/
theorem Database.Amends.read_kept (hamends : db.Amends c l values old row) (k : Kept c l)
    (hname : name ∈ c.fieldNames) (hget : Record.get? values name = none) :
    row.read (fieldReference name) = old.read (fieldReference name) := by
  rw [k.fieldNames_eq] at hname
  rcases List.mem_cons.1 hname with rfl | hname
  · show Cell.int row.id = .int old.id
    rw [hamends.same]
  · obtain ⟨col, hcol, rfl⟩ := List.mem_map.1 hname
    have habsent : ∀ d, (col.name, d) ∉ values := fun d hd =>
      absurd rfl (bne_iff_ne.1 (List.lookup_eq_none_iff.1 hget _ hd))
    rw [k.fieldReference_column hcol]
    exact hamends.cell_eq hcol habsent

/-- The record of a row that was amended: the values that were written stand in place of those before. -/
theorem Database.Amends.full (hamends : db.Amends c l values old row) (k : Kept c l)
    (hnodup : (Record.names values).Nodup)
    (hcolumns : ∀ name ∈ Record.names values, ∃ col ∈ l.columns, col.name = name) :
    row.full c l = Record.putAll (old.full c l) (storedValues c l values) := by
  have hdeclared : Record.names values ⊆ c.fieldNames := by
    intro name hname
    obtain ⟨col, hcol, rfl⟩ := hcolumns name hname
    rw [k.fieldNames_eq]
    exact List.mem_cons_of_mem _ (List.mem_map_of_mem hcol)
  have hstores : row.Stores l values := hamends.stores k hnodup (fun _ hentry => hentry)
    fun entry hentry => hcolumns entry.1 (List.mem_map_of_mem hentry)
  rw [Record.putAll_of_subset (Row.names_full k old ▸ k.fieldNames_nodup)
    ((names_storedValues (c := c) (l := l) values).symm ▸ hnodup)
    (by rw [names_storedValues, Row.names_full k]; exact hdeclared), row.full_eq k, old.full_eq k,
    List.map_map]
  refine List.map_congr_left fun f hf => Prod.ext rfl ?_
  show shown c f (row.read (fieldReference f)) =
    (Record.get? (storedValues c l values) f).getD (shown c f (old.read (fieldReference f)))
  rw [get?_storedValues]
  cases hget : Record.get? values f with
  | some d =>
    have hgiven : f ∈ Record.names values := List.mem_map_of_mem (mem_of_lookup hget)
    exact hstores.shown_given k (hcolumns f hgiven) hget
  | none => exact congrArg (shown c f) (hamends.read_kept k hf hget)

/-! ## Values of each kind -/

theorem asStored_wording (w : Wording) (htext : l.affinity (.column name) = .text)
    (hkind : c.kind? name ≠ some .flag) : asStored c l name (.ofWording w) = .ofWording w := by
  cases w with
  | broken points => rfl
  | proper s =>
    show shown c name ((l.affinity (.column name)).store (.text s)) = .text s
    rw [htext, shown, decide_eq_false hkind]
    rfl

theorem asStored_text (s : String) (htext : l.affinity (.column name) = .text)
    (hkind : c.kind? name ≠ some .flag) : asStored c l name (.text s) = .text s :=
  asStored_wording (.proper s) htext hkind

theorem asStored_flag (b : Bool) :
    asStored .courses .courses "scholarship_available" (.bool b) = .bool b := by
  cases b <;> rfl

theorem asStored_rating (i : Int) : asStored .reviews .reviews "rating" (.int i) = .int i := by
  unfold asStored Cell.bind
  dsimp only
  split
  next v hv =>
    split at hv
    next => cases hv; rfl
    next => exact nomatch hv
  next => rfl

theorem asStored_tuition {x : Binary64}
    (hx : x.Rounded ∨ x = .infinite false ∨ x = .finite true 0) :
    asStored .courses .courses "tuition" (.real x) = (Datum.real x).unsigned := by
  rcases hx with hrounded | rfl | rfl
  · have hbind : Cell.bind (.real x) = .ok (.real x) := by
      rw [Cell.bind, hrounded.isNaN]
      rfl
    have hstore : (Layout.courses.affinity (.column "tuition")).store (.real x) = .real x :=
      Affinity.store_rounded hrounded
    rw [asStored, hbind]
    dsimp only
    rw [hstore]
    cases hrounded
    rfl
  · rfl
  · have hstore : Affinity.real.store (.real (.finite true 0)) = .real .zero := by decide +kernel
    show shown .courses "tuition" (Affinity.real.store (.real (.finite true 0))) = .real .zero
    rw [hstore]
    rfl

/-- Values that are given and stored as they are, or as another value. -/
theorem storedValues_given {fields : List (String × Option Datum)} {kept : Datum → Datum}
    (h : ∀ field ∈ fields, ∀ d, field.2 = some d → asStored c l field.1 d = kept d) :
    storedValues c l (given fields) = (given fields).map fun entry => (entry.1, kept entry.2) :=
  List.map_congr_left fun entry hentry =>
    congrArg (Prod.mk entry.1) (h _ (mem_given hentry) entry.2 rfl)

theorem storedValues_same {fields : List (String × Option Datum)}
    (h : ∀ field ∈ fields, ∀ d, field.2 = some d → asStored c l field.1 d = d) :
    storedValues c l (given fields) = given fields :=
  (storedValues_given h).trans (List.map_id _)

theorem stored_schoolChange (change : SchoolChange) :
    storedValues .schools .schools change.record = change.record := by
  refine storedValues_same ?_
  simp only [SchoolChange.fields, List.forall_mem_cons, Option.map_eq_some_iff]
  refine ⟨?_, ?_, ?_, ?_, ?_, ?_, List.forall_mem_nil _⟩
  all_goals
    rintro _ ⟨_, _, rfl⟩
    first
      | exact asStored_text _ rfl (by decide)
      | exact asStored_wording _ rfl (by decide)

theorem stored_reviewChange (change : ReviewChange) :
    storedValues .reviews .reviews change.record = change.record := by
  refine storedValues_same ?_
  simp only [ReviewChange.fields, List.forall_mem_cons, Option.map_eq_some_iff]
  refine ⟨?_, ?_, ?_, List.forall_mem_nil _⟩
  · rintro _ ⟨s, _, rfl⟩
    exact asStored_text s rfl (by decide)
  · rintro _ ⟨w, _, rfl⟩
    exact asStored_wording w rfl (by decide)
  · rintro _ ⟨i, _, rfl⟩
    exact asStored_rating i

theorem stored_accountChange (change : AccountChange) :
    storedValues .users .users (given change.fields) = given change.fields := by
  refine storedValues_same ?_
  simp only [AccountChange.fields, List.forall_mem_cons, Option.map_eq_some_iff]
  refine ⟨?_, ?_, ?_, ?_, List.forall_mem_nil _⟩
  all_goals
    rintro _ ⟨s, _, rfl⟩
    exact asStored_text s rfl (by decide)

theorem stored_courseChange {change : CourseChange} (htuition : ∀ x, change.tuition = some x →
      x.Rounded ∨ x = .infinite false ∨ x = .finite true 0) :
    storedValues .courses .courses change.record =
      change.record.map fun entry => (entry.1, entry.2.unsigned) := by
  refine storedValues_given ?_
  simp only [CourseChange.fields, List.forall_mem_cons, Option.map_eq_some_iff]
  refine ⟨?_, ?_, ?_, ?_, ?_, List.forall_mem_nil _⟩
  · rintro _ ⟨s, _, rfl⟩
    exact asStored_text s rfl (by decide)
  · rintro _ ⟨s, _, rfl⟩
    exact asStored_text s rfl (by decide)
  · rintro _ ⟨s, _, rfl⟩
    exact asStored_text s rfl (by decide)
  · rintro _ ⟨x, hx, rfl⟩
    exact asStored_tuition (htuition x hx)
  · rintro _ ⟨b, _, rfl⟩
    exact asStored_flag b

/-! ## The average of a school -/

/-- Recomputing one average of one school gives that school another average, and leaves all others as they
are. -/
theorem Database.Averaged.eq_withAverage {due : Aggregate → Int → Prop} {a : Aggregate} {s : Int}
    (h : db.Sound) (haveraged : db.Averaged after due) (hdue : ∀ b t, due b t → b = a ∧ t = s) :
    ∃ average, after.rows "schools" = (db.rows "schools").map (Row.withAverage a s average) := by
  have hl := Kept.schools.mem_standard
  -- a school holds what it held, under all names but that of the average
  have hcells {school now : Row} (hschool : school ∈ db.rows "schools")
      (hnow : now ∈ after.rows "schools") (hid : school.id = now.id) (name : String)
      (hname : name ∈ school.cells.map (·.1)) (hother : school.id ≠ s ∨ name ≠ a.targetField) :
      now.cell name = school.cell name := by
    obtain ⟨same, hsame, hsameId, hcolumns⟩ := haveraged.schools school hschool
    obtain rfl := haveraged.sound.eq_of_id hl hsame hnow (hsameId.trans hid)
    rw [(h.fits _ hl school hschool).names] at hname
    obtain ⟨col, hcol, rfl⟩ := List.mem_map.1 hname
    rcases hcolumns col hcol with hcell | ⟨b, hb, htarget, _⟩
    · exact hcell
    · obtain ⟨rfl, hs⟩ := hdue b _ hb
      exact absurd htarget (hother.resolve_left (not_not.2 hs))
  refine ⟨a.held after s, ?_⟩
  have hall : List.Forall₂ (fun school now => Row.withAverage a s (a.held after s) school = now)
      (db.rows "schools") (after.rows "schools") := by
    refine (forall₂_of_map_eq haveraged.ids.symm).imp ?_
    rintro school now ⟨hschool, hnow, hid⟩
    have hnames := (h.fits _ hl school hschool).names
    have hnames' := (haveraged.sound.fits _ hl now hnow).names
    have hwith : now = school.withCell a.targetField (now.cell a.targetField) :=
      Row.eq_withCell hid.symm (hnames'.trans hnames.symm) (hnames ▸ Kept.schools.columns_nodup)
        fun name hname hne => hcells hschool hnow hid name hname (.inr hne)
    unfold Row.withAverage
    split
    next hs =>
      have hheld := a.held_of_mem haveraged.sound hnow
      rw [← hid, hs] at hheld
      rw [hheld]
      exact hwith.symm
    next hs =>
      have hself : school = school.withCell a.targetField (school.cell a.targetField) :=
        Row.eq_withCell rfl rfl (hnames ▸ Kept.schools.columns_nodup) fun _ _ _ => rfl
      have hmem : a.targetField ∈ school.cells.map (·.1) := by
        rw [hnames]
        exact List.mem_map.2 ⟨a.column, a.column_mem, a.column_name⟩
      rw [hcells hschool hnow hid _ hmem (.inl hs), ← hself] at hwith
      exact hwith.symm
  have heq : List.Forall₂ (· = ·)
      ((db.rows "schools").map (Row.withAverage a s (a.held after s))) (after.rows "schools") :=
    List.forall₂_map_left_iff.2 hall
  rw [List.forall₂_eq_eq_eq] at heq
  exact heq.symm

/-! ## One record in place of another -/

/-- A row has become another one, which shows the values beside what it showed before, and all others
stay; only the school of a changed course or review may have another average. -/
structure Database.Revised (db after : Database) (c : Collection) (l : Layout) (old row : Row)
    (values : Record) : Prop where
  mem : old ∈ db.rows l.name
  same : row.id = old.id
  record : row.full c l = Record.putAll (old.full c l) values
  table : after.rows l.name = (db.rows l.name).map fun r => if r.id = old.id then row else r
  others : ∀ m ∈ Layout.standard, m ≠ l → after.rows m.name = db.rows m.name ∨
    m = .schools ∧ ∃ (a : Aggregate) (s : Int) (average : Cell), l = a.layout ∧
      row.cell "school_id" = .int s ∧
      after.rows m.name = (db.rows m.name).map (Row.withAverage a s average)

theorem Database.rows_amended_of_ne {m : Layout} (h : db.Sound) (hl : l ∈ Layout.standard) (row : Row)
    (hm : m ∈ Layout.standard) (hne : m ≠ l) : (db.amended l row).rows m.name = db.rows m.name := by
  rw [rows_amended h hl row hm]
  exact if_neg fun hname => hne (eq_of_name_eq hm hl hname)

/-- Amending a row changes no other table. -/
theorem Database.Amends.revised (hamends : db.Amends c l values old row) (h : db.Sound) (k : Kept c l)
    (hnodup : (Record.names values).Nodup)
    (hcolumns : ∀ name ∈ Record.names values, ∃ col ∈ l.columns, col.name = name) :
    db.Revised (db.amended l row) c l old row (storedValues c l values) where
  mem := hamends.mem
  same := hamends.same
  record := hamends.full k hnodup hcolumns
  table := by
    rw [rows_amended h k.mem_standard row k.mem_standard, if_pos rfl, hamends.same]
  others m hm hne := .inl (rows_amended_of_ne h k.mem_standard row hm hne)

/-- Amending a course or review may give its school another average. -/
theorem Database.Amends.revised_dependent {around : Surroundings} {a : Aggregate}
    (hamends : db.Amends a.dependents a.layout values old row) (h : db.Sound)
    (hnodup : (Record.names values).Nodup)
    (hcolumns : ∀ name ∈ Record.names values, ∃ col ∈ a.layout.columns, col.name = name)
    (hleaves : (Effect.amend a.layout old row).Leaves around db after) :
    db.Revised after a.dependents a.layout old row (storedValues a.dependents a.layout values) := by
  have k := a.kept_dependents
  obtain ⟨mid, hmakes, hrecomputed⟩ := hleaves
  cases hmakes
  have haveraged := hrecomputed.averaged
  have hrevised := hamends.revised h k hnodup hcolumns
  have hmem := mem_amended_self h k.mem_standard hamends.mem hamends.same
  obtain ⟨s, hcell, _⟩ := key_of_record hamends.sound k a.isKey_school hmem
  refine ⟨hrevised.mem, hrevised.same, hrevised.record, ?_, fun m hm hne => ?_⟩
  · rw [haveraged.others _ k.mem_standard a.layout_ne_schools]
    exact hrevised.table
  · have hsame := rows_amended_of_ne h k.mem_standard row hm hne
    by_cases hschools : m.name = "schools"
    · obtain rfl : m = .schools := eq_of_name_eq hm Kept.schools.mem_standard hschools
      obtain ⟨average, hrows⟩ := haveraged.eq_withAverage hamends.sound fun b t hdue =>
        (dueFor_iff hcell).1 hdue
      exact .inr ⟨rfl, a, s, average, rfl, hcell, hsame ▸ hrows⟩
    · exact .inl ((haveraged.others m hm hschools).trans hsame)

end Store

/-! ## Accounts -/

namespace Service

variable {around : Surroundings} {state next : State} {change : AccountChange} {values : Record}

/-- What is written of a value that a change of an account gives: an email address in lower case, a
password as it is kept. -/
def asKept (kept : String) (entry : String × Datum) : String × Datum :=
  match entry with
  | ("email", .text address) => ("email", .text (Text.lower address))
  | ("password", _) => ("password", .text kept)
  | _ => entry

theorem asKept_fields (change : AccountChange) (kept : String) :
    given { change with email := change.email.map Text.lower
                        password := change.password.map fun _ => kept }.fields =
      (given change.fields).map (asKept kept) := by
  obtain ⟨name, email, role, password⟩ := change
  cases name <;> cases email <;> cases role <;> cases password <;> rfl

/-- What a password is kept as with the salt that is drawn next. -/
def KeptNext (around : Surroundings) (state next : State) (password kept : String) : Prop :=
  Password.keep (.proper password) (around.salt (state.salts + 1)) around.iterations = .ok kept ∧
    next.salts = state.salts + 1

/-- What a change of an account writes is what it gives, as it is kept. -/
theorem asKept_of_run
    (hrun : run (Accounts.changedValues change) around state = (.ok values, next)) :
    next.database = state.database ∧ ∃ kept,
      (∀ password, change.password = some password → KeptNext around state next password kept) ∧
      values = (given change.fields).map (asKept kept) := by
  unfold Accounts.changedValues at hrun
  cases hpassword : change.password with
  | none =>
    rw [hpassword] at hrun
    cases hrun
    refine ⟨rfl, "", ?_, ?_⟩
    · rintro _ ⟨⟩
    · rw [← asKept_fields, hpassword]
      rfl
  | some password =>
    rw [hpassword] at hrun
    simp only [Accounts.keepPassword, run_bind, run_map, run_nextSalt, run_read, run_ofExcept] at hrun
    cases hkeep : Password.keep (.proper password) (around.salt (state.salts + 1)) around.iterations with
    | error failure =>
      rw [hkeep] at hrun
      exact nomatch hrun
    | ok kept =>
      rw [hkeep] at hrun
      cases hrun
      refine ⟨rfl, kept, ?_, ?_⟩
      · rintro _ ⟨⟩
        exact ⟨hkeep, rfl⟩
      · rw [← asKept_fields, hpassword]
        rfl

/-- An update of an account writes what the change gives, as it is kept. -/
theorem amends_updateAccount {id : Datum} {record : Record} (h : state.database.Sound)
    (hrun : run (Accounts.update id change) around state = (.ok record, next)) :
    ∃ old row kept, id.Denotes old.id ∧
      (∀ password, change.password = some password → KeptNext around state next password kept) ∧
      state.database.Amends .users .users ((given change.fields).map (asKept kept)) old row ∧
      next.database = state.database.amended .users row ∧ record = row.record .users .users := by
  unfold Accounts.update at hrun
  rw [run_bind] at hrun
  rcases hchanged : run (Accounts.changedValues change) around state with ⟨failure | values, mid⟩
  · rw [hchanged] at hrun
    exact nomatch hrun
  rw [hchanged] at hrun
  obtain ⟨hdatabase, kept, hkept, rfl⟩ := asKept_of_run hchanged
  obtain ⟨old, row, hid, hamends, hafter, hrecord⟩ :=
    (achieves_writeAccount (hdatabase ▸ h : mid.database.Sound) id _).of_eq rfl hrun
  rw [hdatabase] at hamends hafter
  have hsalts : next.salts = mid.salts := by
    refine Spares.of_eq ?_ hrun
    refine ((spares_update apart_salts _ _ _).wording fun _ => spares_fail _).bind ?_
    rintro (_ | _)
    · exact spares_fail _
    · exact spares_pure _
  refine ⟨old, row, kept, hid, fun password hsome => ?_, hamends, hafter, hrecord⟩
  obtain ⟨hkeep, hnext⟩ := hkept password hsome
  exact ⟨hkeep, hsalts.trans hnext⟩

theorem of_run_map {α β : Type} {f : α → β} {x : Service α} {b : β}
    (hrun : run (f <$> x) around state = (.ok b, next)) :
    ∃ a, run x around state = (.ok a, next) ∧ b = f a := by
  rw [run_map] at hrun
  rcases hx : run x around state with ⟨failure | a, mid⟩
  · rw [hx] at hrun
    exact nomatch hrun
  · rw [hx] at hrun
    cases hrun
    exact ⟨a, rfl, rfl⟩

end Service

/-! ## Updates -/

/-- What is given for different fields that are columns of a table. -/
theorem columns_given {l : Layout} {fields : List (String × Option Datum)} (names : List String)
    (hnames : fields.map (·.1) = names) (hnodup : names.Nodup)
    (hcolumns : ∀ name ∈ names, ∃ col ∈ l.columns, col.name = name) :
    (Record.names (given fields)).Nodup ∧
      ∀ name ∈ Record.names (given fields), ∃ col ∈ l.columns, col.name = name := by
  subst hnames
  exact ⟨hnodup.sublist (names_given fields), fun name hname =>
    hcolumns name ((names_given fields).subset hname)⟩

namespace Operation

variable {around : Surroundings} {state next : State} {entries : Record} {answer : Datum} {id : Datum}
  {caller : Caller}

/-- The operations that change a record by a form. -/
inductive Updates (entries : Record) : Operation → Prop
  | school {id : Datum} {change : SchoolChange} {caller : Caller} :
      SchoolChange.read entries = .ok change → Updates entries (.updateSchool id change caller)
  | course {id : Datum} {change : CourseChange} {caller : Caller} :
      CourseChange.read entries = .ok change → Updates entries (.updateCourse id change caller)
  | review {id : Datum} {change : ReviewChange} {caller : Caller} :
      ReviewChange.read entries = .ok change → Updates entries (.updateReview id change caller)
  | account {id : Datum} {change : AccountChange} :
      AccountChange.read entries = .ok change → Updates entries (.updateAccount id change)

/-- The values that an update puts into the record of a row: what the form gives for the fields of the
change and, if a school gets another address than it had, the location fields of that address. -/
inductive Rewrites (around : Surroundings) (state next : State) (entries : Record) (old : Row) :
    Operation → Collection → Layout → Record → Prop
  | stays {id : Datum} {change : SchoolChange} {caller : Caller} : id.Denotes old.id →
      SchoolChange.schema.Taken entries change.fields →
      (∀ address, change.address = some address →
        Datum.ofWording address = (old.cell "address").toDatum) →
      Rewrites around state next entries old (.updateSchool id change caller) .schools .schools
        change.record
  | moves {id : Datum} {change : SchoolChange} {caller : Caller} {address : Wording}
      {location : Record} : id.Denotes old.id →
      SchoolChange.schema.Taken entries change.fields → change.address = some address →
      Datum.ofWording address ≠ (old.cell "address").toDatum → Located around address location →
      Record.names (filled location) = Geo.locationFields →
      Rewrites around state next entries old (.updateSchool id change caller) .schools .schools
        (change.record ++ storedValues .schools .schools (filled location))
  | course {id : Datum} {change : CourseChange} {caller : Caller} : id.Denotes old.id →
      CourseChange.schema.Taken entries change.fields →
      Rewrites around state next entries old (.updateCourse id change caller) .courses .courses
        (change.record.map fun entry => (entry.1, entry.2.unsigned))
  | review {id : Datum} {change : ReviewChange} {caller : Caller} : id.Denotes old.id →
      ReviewChange.schema.Taken entries change.fields →
      Rewrites around state next entries old (.updateReview id change caller) .reviews .reviews
        change.record
  | account {id : Datum} {change : AccountChange} {kept : String} : id.Denotes old.id →
      AccountChange.schema.Taken entries change.fields →
      (∀ password, change.password = some password → KeptNext around state next password kept) →
      Rewrites around state next entries old (.updateAccount id change) .users .users
        ((given change.fields).map (asKept kept))

/-- An update puts its values into one record and changes no other one, averages apart; it answers with
that record, hidden fields left out. -/
def Revises (around : Surroundings) (state next : State) (entries : Record) (operation : Operation)
    (answer : Datum) : Prop :=
  ∃ c l old row values, operation.Rewrites around state next entries old c l values ∧
    state.database.Revised next.database c l old row values ∧
    answer = .dict ((row.full c l).filter fun field => !c.isHidden field.1)

/-- The address that a form gives is the one that is stored, or it is another one. -/
theorem same_address {old : Row} {address : Wording} :
    (Record.field (old.record .schools .schools) "address").same (.ofWording address) = true ↔
      Datum.ofWording address = (old.cell "address").toDatum := by
  rw [field_address]
  constructor
  · intro hsame
    cases address with
    | proper s => rw [eq_of_same_text hsame]; rfl
    | broken points =>
      cases hcell : old.cell "address" <;> rw [hcell] at hsame <;>
        simp [Cell.toDatum, Datum.ofWording, Datum.same, Datum.sameNumber, Datum.wholeValue?,
          Datum.isNull] at hsame
  · intro heq
    rw [← heq]
    cases address <;> simp [Datum.ofWording, Datum.same]

theorem revises_updateSchool {change : SchoolChange} (h : state.database.Sound)
    (hread : SchoolChange.read entries = .ok change)
    (hrun : run (updateSchool id change caller).perform around state = (.ok answer, next)) :
    Revises around state next entries (updateSchool id change caller) answer := by
  obtain ⟨record, hupdate, rfl⟩ := of_run_map hrun
  obtain ⟨old, row, values, hold, hvalues, hamends, hafter, rfl⟩ :=
    (achieves_updateSchool h id change caller).of_eq rfl hupdate
  have htaken := taken_schoolChange hread
  have hcolumns : ∀ name ∈ Record.names change.record, ∃ col ∈ Layout.schools.columns, col.name = name :=
    (columns_given ["name", "description", "website", "phone", "email", "address"] rfl (by decide)
      (by decide)).2
  rw [Row.record_eq_filter .schools]
  cases hvalues with
  | stays hstays =>
    have hrevised := hamends.revised h .schools (nodup_change change) hcolumns
    rw [stored_schoolChange, ← hafter] at hrevised
    exact ⟨_, _, old, row, _, .stays hold.denotes htaken fun address hgiven =>
      same_address.1 (hstays address hgiven), hrevised, rfl⟩
  | @moves address location haddress hdiffers hlocated =>
    have hnames := names_filled hlocated.names
    obtain ⟨heq, hnodup⟩ := moved_eq change hnames
    have hmoved : state.database.Amends .schools .schools (change.record ++ filled location) old row :=
      heq ▸ hamends
    have hall : ∀ name ∈ Record.names (change.record ++ filled location),
        ∃ col ∈ Layout.schools.columns, col.name = name := by
      intro name hname
      rw [Record.names, List.map_append, List.mem_append] at hname
      rcases hname with hname | hname
      · exact hcolumns name hname
      · exact (located_columns name (List.mem_cons_of_mem _ (hnames ▸ hname))).2
    have hrevised := hmoved.revised h .schools hnodup hall
    rw [storedValues_append, stored_schoolChange, ← hafter] at hrevised
    have hother : Datum.ofWording address ≠ (old.cell "address").toDatum := fun hsame =>
      Bool.false_ne_true (hdiffers.symm.trans (same_address.2 hsame))
    exact ⟨_, _, old, row, _, .moves hold.denotes htaken haddress hother hlocated hnames, hrevised, rfl⟩

theorem revises_updateCourse {payload : Wording} {change : CourseChange} (h : state.database.Sound)
    (hpayload : Json.parseWording payload = .ok (.dict entries))
    (hread : CourseChange.read entries = .ok change)
    (hrun : run (updateCourse id change caller).perform around state = (.ok answer, next)) :
    Revises around state next entries (updateCourse id change caller) answer := by
  obtain ⟨record, hupdate, rfl⟩ := of_run_map hrun
  obtain ⟨old, row, hold, hamends, hleaves, rfl⟩ :=
    (achieves_updateCourse h id change caller).of_eq rfl hupdate
  obtain ⟨hnodup, hcolumns⟩ := columns_given
    ["title", "description", "weeks", "tuition", "scholarship_available"] (l := .courses)
    (show change.fields.map (·.1) = _ from rfl) (by decide) (by decide)
  have hrevised := Amends.revised_dependent (a := .cost) hamends h hnodup hcolumns hleaves
  rw [show storedValues Aggregate.cost.dependents Aggregate.cost.layout change.record = _ from
    stored_courseChange fun x hx => tuition_of_payload hpayload hread hx] at hrevised
  rw [Row.record_eq_filter .courses]
  exact ⟨_, _, old, row, _, .course hold.denotes (taken_courseChange hread), hrevised, rfl⟩

theorem revises_updateReview {change : ReviewChange} (h : state.database.Sound)
    (hread : ReviewChange.read entries = .ok change)
    (hrun : run (updateReview id change caller).perform around state = (.ok answer, next)) :
    Revises around state next entries (updateReview id change caller) answer := by
  obtain ⟨record, hupdate, rfl⟩ := of_run_map hrun
  obtain ⟨old, row, hold, hamends, hleaves, rfl⟩ :=
    (achieves_updateReview h id change caller).of_eq rfl hupdate
  obtain ⟨hnodup, hcolumns⟩ := columns_given ["title", "text", "rating"] (l := .reviews)
    (show change.fields.map (·.1) = _ from rfl) (by decide) (by decide)
  have hrevised := Amends.revised_dependent (a := .rating) hamends h hnodup hcolumns hleaves
  rw [show storedValues Aggregate.rating.dependents Aggregate.rating.layout change.record = _ from
    stored_reviewChange change] at hrevised
  rw [Row.record_eq_filter .reviews]
  exact ⟨_, _, old, row, _, .review hold.denotes (taken_reviewChange hread), hrevised, rfl⟩

theorem revises_updateAccount {change : AccountChange} (h : state.database.Sound)
    (hread : AccountChange.read entries = .ok change)
    (hrun : run (updateAccount id change).perform around state = (.ok answer, next)) :
    Revises around state next entries (updateAccount id change) answer := by
  obtain ⟨record, hupdate, rfl⟩ := of_run_map hrun
  obtain ⟨old, row, kept, hid, hkept, hamends, hafter, rfl⟩ := amends_updateAccount h hupdate
  rw [← asKept_fields] at hamends
  obtain ⟨hnodup, hcolumns⟩ := columns_given ["name", "email", "role", "password"] (l := .users)
    (show (AccountChange.fields _).map (·.1) = _ from rfl) (by decide) (by decide)
  have hrevised := hamends.revised h .users hnodup hcolumns
  rw [stored_accountChange, asKept_fields, ← hafter] at hrevised
  rw [Row.record_eq_filter .users]
  exact ⟨_, _, old, row, _, .account hid (taken_accountChange hread) hkept, hrevised, rfl⟩

/-! ## Results -/

/-- A form that gives a course another price, nothing for its weeks, and an identity. -/
def repriced : String := "\x7b\"tuition\":250,\"weeks\":null,\"id\":7\x7d"

def repricedForm : Record := [("tuition", .int 250), ("weeks", .null), ("id", .int 7)]

def repricedChange : CourseChange := ⟨none, none, none, some (.ofInt 250), none⟩

theorem parse_repriced : Json.parse repriced = .ok (.dict repricedForm) := by
  have hrender : Json.render (.dict repricedForm) = .ok repriced := by decide +kernel
  obtain ⟨found, hfound, hparse⟩ := Json.parse_dict (by decide) (by decide) hrender
  -- neither whole numbers nor null change when they are read back
  obtain _ | ⟨⟨⟩, _ | ⟨⟨⟩, _ | ⟨⟨⟩, ⟨⟩⟩⟩⟩ := hfound
  exact hparse

theorem read_of_toExcept {change : CourseChange}
    (h : (CourseChange.read entries).toExcept.toOption = some change) :
    CourseChange.read entries = .ok change := by
  cases hread : CourseChange.read entries with
  | ok read =>
    rw [hread] at h
    exact congrArg Form.Checked.ok (Option.some.inj h)
  | bad issues =>
    rw [hread] at h
    cases h

/-- After every run of operations an update by a form that was read from a JSON text, if it succeeds,
puts exactly what the form gives into one record, and changes no other one but that the school of a
changed course or review gets its average; it answers with the record that it changed. -/
theorem revises_of_run (requests : List (Surroundings × Operation)) (around : Surroundings)
    (operation : Operation) {payload : Wording} {entries : Record} {answer : Datum}
    (hpayload : Json.parseWording payload = .ok (.dict entries)) (hupdates : operation.Updates entries)
    (hanswer : (run operation.perform around (runAll .fresh requests)).1 = .ok answer) :
    let state := runAll .fresh requests
    Revises around state (step state (around, operation)) entries operation answer := by
  intro state
  have h : state.database.Sound := sound_run sound_fresh requests
  have hrun : run operation.perform around state = (.ok answer, step state (around, operation)) :=
    Prod.ext hanswer rfl
  cases hupdates with
  | school hread => exact revises_updateSchool h hread hrun
  | course hread => exact revises_updateCourse h hpayload hread hrun
  | review hread => exact revises_updateReview h hread hrun
  | account hread => exact revises_updateAccount h hread hrun

theorem revises_of_repriced :
    let state := runAll .fresh priced
    let operation := updateCourse (.int 1) repricedChange admin
    Json.parseWording (.proper repriced) = .ok (.dict repricedForm) ∧ operation.Updates repricedForm ∧
      ∃ answer, (run operation.perform calm state).1 = .ok answer ∧
        Revises calm state (step state (calm, operation)) repricedForm operation answer := by
  intro state operation
  have hupdates : operation.Updates repricedForm := .course (read_of_toExcept (by decide +kernel))
  obtain ⟨answer, hanswer⟩ := exists_of_isOk (by decide +kernel :
    (run operation.perform calm state).1.isOk = true)
  exact ⟨parse_repriced, hupdates, answer, hanswer,
    revises_of_run priced calm operation parse_repriced hupdates hanswer⟩

/-- A form that gives a course a price of negative zero. -/
def signed : String := "\x7b\"tuition\":-0.0\x7d"

/-- The number that a record of a single field holds. -/
def onlyNumber? : Datum → Option (String × Binary64)
  | .dict [(name, .real x)] => some (name, x)
  | _ => none

theorem parse_signed : Json.parse signed = .ok (.dict [("tuition", .real (.finite true 0))]) := by
  have hparse : (Json.parse signed).toOption.bind onlyNumber? = some ("tuition", .finite true 0) := by
    decide +kernel
  obtain ⟨d, hd, hnumber⟩ := Option.bind_eq_some_iff.1 hparse
  rw [toOption_eq_some.1 hd]
  unfold onlyNumber? at hnumber
  split at hnumber
  next => cases hnumber; rfl
  next => cases hnumber

/-- A tuition of negative zero is taken from a form, and stored as zero. -/
theorem unsigned_of_signed :
    let entries : Record := [("tuition", .real (.finite true 0))]
    let state := runAll .fresh priced
    let operation := updateCourse (.int 1) ⟨none, none, none, some (.finite true 0), none⟩ admin
    Json.parseWording (.proper signed) = .ok (.dict entries) ∧ operation.Updates entries ∧
      (run operation.perform calm state).1.isOk = true ∧
      ((step state (calm, operation)).database.rows "courses").map
        (fun course => (course.id, course.cell "tuition")) = [(1, .real .zero)] ∧
      Binary64.zero ≠ .finite true 0 :=
  ⟨parse_signed, .course (read_of_toExcept (by decide +kernel)), by decide +kernel, by decide +kernel,
    by decide⟩

end Operation
end SchoolCatalog
