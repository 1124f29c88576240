import Mathlib.Data.List.Perm.Subperm
import SchoolCatalog.Proofs.Record
import SchoolCatalog.Proofs.Store.Writing

/-!
# When a write succeeds

A write to a sound database succeeds if its values can be bound and the row that they make is accepted.
Whether a row is accepted is a matter of the columns with rules alone: a write that succeeds would have
succeeded with any other values for the columns without rules, as long as these can be bound. A record
that gives each column one value at most determines what is stored.

Results:
1. `Written.unique`, `stores_of_written`: what is stored for a record of different names.
2. `insert_of_accepted`, `update_of_accepted`: what it takes for a write to succeed.
3. `accept_freely`, `insert_freely`, `update_freely`: columns without rules make no difference.
4. `insert_unbound`, `update_unbound`: a value that cannot be bound makes the write fail.
5. `update_free`: writing one value to a column without rules succeeds.
-/

namespace SchoolCatalog

open Store

namespace Record

/-- In a record of different names, a name stands with one value. -/
theorem value_unique {values : Record} (h : (names values).Nodup) {name : String} {d e : Datum}
    (hd : (name, d) ∈ values) (he : (name, e) ∈ values) : d = e := by
  have hdiffer : (values.map Prod.fst).Nodup := h
  exact (Prod.mk.inj (eq_of_mark_eq hdiffer hd he rfl)).2

end Record

namespace Store

variable {db : Database} {c : Collection} {l : Layout} {values others : Record} {col : Column}
  {row : Row}

/-! ## Values that are given once -/

/-- A row holds all values of a record, in the form in which its columns store them. -/
def Row.Stores (l : Layout) (values : Record) (row : Row) : Prop :=
  ∀ entry ∈ values, ∃ v, Cell.bind entry.2 = .ok v ∧
    row.cell entry.1 = (l.affinity (.column entry.1)).store v

theorem Row.Stores.mono {part : Record} (h : row.Stores l values)
    (hpart : ∀ entry ∈ part, entry ∈ values) : row.Stores l part :=
  fun entry hentry => h entry (hpart entry hentry)

/-- A text that is stored is one that has no halves of pairs. -/
theorem Row.Stores.wording {name : String} {w : Wording} (h : row.Stores l [(name, .ofWording w)])
    (htext : l.affinity (.column name) = .text) :
    ∃ s, w = .proper s ∧ row.cell name = .text s := by
  obtain ⟨v, hv, hcell⟩ := h _ (List.mem_singleton_self _)
  cases w with
  | proper s =>
    obtain rfl := Except.ok.inj hv
    exact ⟨s, rfl, by rw [hcell, htext]; rfl⟩
  | broken points => exact nomatch hv

theorem Written.unique (hnodup : (Record.names values).Nodup) {before after after' : Cell}
    (h : Written values col before after) (h' : Written values col before after') :
    after = after' := by
  rcases h with ⟨d, v, hd, hv, rfl⟩ | ⟨hnone, rfl⟩
  · rcases h' with ⟨e, w, he, hw, rfl⟩ | ⟨hnone, _⟩
    · obtain rfl := Record.value_unique hnodup hd he
      cases hv.symm.trans hw
      rfl
    · exact absurd hd (hnone d)
  · rcases h' with ⟨e, w, he, _⟩ | ⟨_, rfl⟩
    · exact absurd he (hnone e)
    · rfl

theorem Written.congr (hsame : ∀ d, (col.name, d) ∈ values ↔ (col.name, d) ∈ others)
    {before after : Cell} (h : Written values col before after) : Written others col before after := by
  rcases h with ⟨d, v, hd, hv, hafter⟩ | ⟨hnone, hafter⟩
  · exact .inl ⟨d, v, (hsame d).1 hd, hv, hafter⟩
  · exact .inr ⟨fun d hd => hnone d ((hsame d).2 hd), hafter⟩

/-- A row that is written for a record of different names stores it. -/
theorem stores_of_written (k : Kept c l) (hvalues : ForColumns c values)
    (hnodup : (Record.names values).Nodup) {before : Column → Cell}
    (hwritten : ∀ col ∈ l.columns, Written values col (before col) (row.cell col.name)) :
    row.Stores l values := by
  rintro ⟨name, d⟩ hentry
  obtain ⟨hfield, hne⟩ := hvalues _ hentry
  rw [k.fieldNames_eq] at hfield
  obtain ⟨col, hcol, rfl⟩ := List.mem_map.1 ((List.mem_cons.1 hfield).resolve_left hne)
  rcases hwritten col hcol with ⟨e, v, he, hv, hcell⟩ | ⟨hnone, _⟩
  · obtain rfl := Record.value_unique hnodup hentry he
    refine ⟨v, hv, ?_⟩
    rw [hcell, Layout.affinity, k.column?_eq hcol]
    rfl
  · exact absurd hentry (hnone d)

/-! ## What it takes to succeed -/

/-- Values for different columns are few enough for a statement. -/
theorem check_values (k : Kept c l) (hvalues : ForColumns c values)
    (hnodup : (Record.names values).Nodup) :
    Statement.check { table := c.name, columns := Record.names values } = .ok () := by
  have hdeclared : ∀ f ∈ Record.names values, f ∈ c.fieldNames := by
    intro f hf
    obtain ⟨entry, hentry, rfl⟩ := List.mem_map.1 hf
    exact (hvalues entry hentry).1
  have hfew : (Record.names values).length ≤ 20 :=
    Nat.le_trans (List.Nodup.subperm hnodup hdeclared).length_le k.fieldNames_length
  rw [check_of_declared k rfl (by simpa [Statement.names] using hdeclared)]
  refine if_pos ?_
  have hwidth : (Record.names values).length ≤ Statement.greatestWidth :=
    Nat.le_trans hfew (by decide)
  simp [Statement.keepsBounds, canJoin, hwidth]

namespace Database

/-- The identity that an insertion without one gives is the next, if one is left. -/
theorem newId_assigned (h : db.Sound) (k : Kept c l) (hvalues : ForColumns c values) {a : Assignments}
    (ha : l.assign values = .ok a)
    (hroom : db.greatestHandedOut l.name < Number.greatestWord) :
    db.newId ⟨l, db.rows l.name⟩ a = .ok (db.greatestHandedOut l.name + 1) := by
  rw [newId, identity?_assigned k hvalues ha]
  dsimp only
  rw [nextId_eq h k.mem_standard, if_pos hroom]

/-- An insertion succeeds if its values can be bound, an identity is left and the row is accepted. -/
theorem insert_of_accepted (h : db.Sound) (k : Kept c l) (hvalues : ForColumns c values)
    (hnodup : (Record.names values).Nodup) {a : Assignments} (ha : l.assign values = .ok a)
    (hroom : db.greatestHandedOut l.name < Number.greatestWord)
    (haccept : db.accept l (db.rows l.name)
      ⟨db.greatestHandedOut l.name + 1, a.newCells l⟩ = .ok ()) :
    db.insert c values =
      .ok (db.grown l ⟨db.greatestHandedOut l.name + 1, a.newCells l⟩,
        db.greatestHandedOut l.name + 1) := by
  refine bind_eq_ok.2 ⟨(), check_values k hvalues hnodup, ?_⟩
  refine bind_eq_ok.2 ⟨_, h.standing.table_eq k, ?_⟩
  refine bind_eq_ok.2 ⟨a, ha, ?_⟩
  refine bind_eq_ok.2 ⟨_, newId_assigned h k hvalues ha hroom, ?_⟩
  refine bind_eq_ok.2 ⟨(), haccept, ?_⟩
  rw [insertRow_last (h.before_next k.mem_standard)]
  rfl

/-- An update succeeds if its values can be bound, its row is there and is accepted as changed. -/
theorem update_of_accepted (h : db.Sound) (k : Kept c l) (hvalues : ForColumns c values)
    (hnodup : (Record.names values).Nodup) {a : Assignments} (ha : l.assign values = .ok a)
    {id : Datum} {old : Row} (hold : old ∈ db.rows l.name) (hid : id.Denotes old.id)
    (haccept : db.accept l ((db.rows l.name).filter (·.id != old.id))
      ⟨old.id, a.changedCells l old.cells⟩ = .ok ()) :
    db.update c id values = .ok (db.amended l ⟨old.id, a.changedCells l old.cells⟩, true) := by
  obtain ⟨key, hkey, hadapt⟩ := hid
  have hfind := (find?_hasId h k.mem_standard hkey hold).2 ⟨key, hkey, hadapt⟩
  have hchanged : changedId old a = .ok old.id := by
    rw [changedId, identity?_assigned k hvalues ha]
  refine bind_eq_ok.2 ⟨(), check_values k hvalues hnodup, ?_⟩
  refine bind_eq_ok.2 ⟨_, h.standing.table_eq k, ?_⟩
  refine bind_eq_ok.2 ⟨a, ha, ?_⟩
  refine bind_eq_ok.2 ⟨key, hkey, ?_⟩
  dsimp only
  rw [hfind]
  refine bind_eq_ok.2 ⟨old.id, hchanged, ?_⟩
  refine bind_eq_ok.2 ⟨(), haccept, ?_⟩
  rw [db.keepsNames_self, insertRow_filter (h.ordered l k.mem_standard) hold (by rfl)]
  rfl

/-- A value that cannot be bound makes an insertion fail. -/
theorem insert_unbound (h : db.Sound) (k : Kept c l) (hvalues : ForColumns c values)
    (hnodup : (Record.names values).Nodup) {failure : Failure}
    (hassign : l.assign values = .error failure) : db.insert c values = .error failure := by
  unfold insert
  rw [check_values k hvalues hnodup, h.standing.table_eq k]
  show (l.assign values >>= _) = _
  rw [hassign]
  rfl

theorem update_unbound (h : db.Sound) (k : Kept c l) (hvalues : ForColumns c values)
    (hnodup : (Record.names values).Nodup) (id : Datum) {failure : Failure}
    (hassign : l.assign values = .error failure) : db.update c id values = .error failure := by
  unfold update
  rw [check_values k hvalues hnodup, h.standing.table_eq k]
  show (l.assign values >>= _) = _
  rw [hassign]
  rfl

end Database

/-! ## Columns without rules -/

/-- A column that may hold anything that its affinity keeps, but for null if it is required. -/
structure Layout.IsFree (l : Layout) (col : Column) : Prop where
  unchecked : col.check = none
  shared : ∀ columns ∈ l.unique, col.name ∉ columns
  unlinked : ∀ link ∈ l.parents, link.1 ≠ col.name

/-- Two records give the same but for columns without rules that may be null. -/
def Layout.AgreeOnRules (l : Layout) (values others : Record) : Prop :=
  ∀ col ∈ l.columns, (∀ d, (col.name, d) ∈ values ↔ (col.name, d) ∈ others) ∨
    l.IsFree col ∧ col.required = false

namespace Database

/-- A row that is there is accepted beside the others. -/
theorem accept_self (h : db.Sound) (hl : l ∈ Layout.standard) {old : Row}
    (hold : old ∈ db.rows l.name) :
    db.accept l ((db.rows l.name).filter (·.id != old.id)) old = .ok () := by
  have hfits := h.fits l hl old hold
  have hother {other : Row} (hmem : other ∈ (db.rows l.name).filter (·.id != old.id)) :
      other ∈ db.rows l.name ∧ other.id ≠ old.id := by
    obtain ⟨hother, hne⟩ := List.mem_filter.1 hmem
    exact ⟨hother, by simpa using hne⟩
  refine (accept_iff h hl hfits.names hfits.kept).2 ⟨hfits, fun other hmem => (hother hmem).2, ?_, ?_⟩
  · intro columns hcolumns other hmem
    exact h.unique l hl columns hcolumns old hold other (hother hmem).1 (hother hmem).2.symm
  · exact fun link hlink => h.named l hl link hlink old hold

/-- Whether a row is accepted is a matter of the columns with rules; any other may hold what its
affinity keeps. -/
theorem accept_freely (h : db.Sound) (hl : l ∈ Layout.standard) {others : List Row} {row other : Row}
    (haccept : db.accept l others row = .ok ()) (hfits : row.cells.map (·.1) = l.columns.map (·.name))
    (hkept : ∀ col ∈ l.columns, col.affinity.Keeps (row.cell col.name)) (hid : other.id = row.id)
    (hnames : other.cells.map (·.1) = l.columns.map (·.name))
    (hkeeps : ∀ col ∈ l.columns, col.affinity.Keeps (other.cell col.name))
    (hcells : ∀ col ∈ l.columns, other.cell col.name = row.cell col.name ∨
      l.IsFree col ∧ (col.required = true → (other.cell col.name).isNull = false)) :
    db.accept l others other = .ok () := by
  obtain ⟨hrow, hids, hunique, hnamed⟩ := (accept_iff h hl hfits hkept).1 haccept
  have hother : other.Fits l := by
    refine { names := hnames, kept := hkeeps, required := ?_, checked := ?_ }
    · intro col hcol hrequired
      rcases hcells col hcol with hsame | ⟨_, hfilled⟩
      · rw [hsame]
        exact hrow.required col hcol hrequired
      · exact hfilled hrequired
    · intro col hcol check hcheck
      rcases hcells col hcol with hsame | ⟨hfree, _⟩
      · rw [hsame]
        exact hrow.checked col hcol check hcheck
      · exact nomatch hfree.unchecked.symm.trans hcheck
  refine (accept_iff h hl hnames hkeeps).2 ⟨hother, hid ▸ hids, ?_, ?_⟩
  · intro columns hcolumns beside hbeside hagrees
    refine hunique columns hcolumns beside hbeside fun name hname => ?_
    obtain ⟨col, hcol, rfl⟩ := List.mem_map.1 (unique_declared hl hcolumns hname)
    rcases hcells col hcol with hsame | ⟨hfree, _⟩
    · rw [← hsame]
      exact hagrees _ hname
    · exact absurd hname (hfree.shared columns hcolumns)
  · intro link hlink
    obtain ⟨col, hcol, hname, _⟩ := link_column hl hlink
    rcases hcells col hcol with hsame | ⟨hfree, _⟩
    · rw [← hname, hsame, hname]
      exact hnamed link hlink
    · exact absurd hname.symm (hfree.unlinked link hlink)

/-- What is written to columns without rules makes no difference to whether an insertion succeeds, if
it can be bound. -/
theorem insert_freely (h : db.Sound) (k : Kept c l) (hvalues : ForColumns c values)
    (hothers : ForColumns c others) (hnodup : (Record.names others).Nodup)
    (hagree : l.AgreeOnRules values others)
    {b : Assignments} (hb : l.assign others = .ok b) {after : Database} {id : Int}
    (hinsert : db.insert c values = .ok (after, id)) :
    ∃ row other : Row, row.id = id ∧ after = db.grown l row ∧ other.id = id ∧
      db.insert c others = .ok (db.grown l other, id) ∧
      (∀ col ∈ l.columns, Written others col col.default (other.cell col.name)) ∧
      ∀ col ∈ l.columns, (∀ d, (col.name, d) ∈ values ↔ (col.name, d) ∈ others) →
        other.cell col.name = row.cell col.name := by
  have hl := k.mem_standard
  obtain ⟨a, ha, hroom, rfl, haccept, rfl⟩ := accepted_of_insert h k hvalues hinsert
  generalize hid : db.greatestHandedOut l.name + 1 = id at *
  have hcells : ∀ col ∈ l.columns,
      Written values col col.default ((⟨id, a.newCells l⟩ : Row).cell col.name) :=
    fun col hcol => written_newCells k hvalues ha id hcol
  have hcells' : ∀ col ∈ l.columns,
      Written others col col.default ((⟨id, b.newCells l⟩ : Row).cell col.name) :=
    fun col hcol => written_newCells k hothers hb id hcol
  have hsame : ∀ col ∈ l.columns, (∀ d, (col.name, d) ∈ values ↔ (col.name, d) ∈ others) →
      (⟨id, b.newCells l⟩ : Row).cell col.name = (⟨id, a.newCells l⟩ : Row).cell col.name :=
    fun col hcol hiff => (hcells' col hcol).unique hnodup ((hcells col hcol).congr hiff)
  have haccept' : db.accept l (db.rows l.name) ⟨id, b.newCells l⟩ = .ok () := by
    refine accept_freely h hl haccept (names_newCells a l)
      (fun col hcol => (hcells col hcol).keeps (keeps_default hl hcol)) rfl (names_newCells b l)
      (fun col hcol => (hcells' col hcol).keeps (keeps_default hl hcol)) fun col hcol => ?_
    rcases hagree col hcol with hiff | ⟨hfree, hoptional⟩
    · exact .inl (hsame col hcol hiff)
    · exact .inr ⟨hfree, fun hrequired => absurd hrequired (by rw [hoptional]; decide)⟩
  have hinsert' := insert_of_accepted h k hothers hnodup hb hroom (hid ▸ haccept')
  exact ⟨⟨id, a.newCells l⟩, ⟨id, b.newCells l⟩, rfl, rfl, rfl, hid ▸ hinsert', hcells', hsame⟩

/-- What is written to columns without rules makes no difference to whether an update succeeds, if it
can be bound. -/
theorem update_freely (h : db.Sound) (k : Kept c l) (hvalues : ForColumns c values)
    (hothers : ForColumns c others) (hnodup : (Record.names others).Nodup)
    (hagree : l.AgreeOnRules values others)
    {b : Assignments} (hb : l.assign others = .ok b) {id : Datum} {after : Database}
    (hupdate : db.update c id values = .ok (after, true)) :
    ∃ old ∈ db.rows l.name, ∃ row other : Row, id.Denotes old.id ∧ row.id = old.id ∧
      after = db.amended l row ∧ other.id = old.id ∧
      db.update c id others = .ok (db.amended l other, true) ∧
      (∀ col ∈ l.columns, Written others col (old.cell col.name) (other.cell col.name)) ∧
      ∀ col ∈ l.columns, (∀ d, (col.name, d) ∈ values ↔ (col.name, d) ∈ others) →
        other.cell col.name = row.cell col.name := by
  have hl := k.mem_standard
  obtain ⟨a, ha, ⟨hfound, _⟩ | ⟨_, old, hold, hid, haccept, rfl⟩⟩ :=
    accepted_of_update h k hvalues hupdate
  · exact nomatch hfound
  have hfits := h.fits l hl old hold
  have hcells : ∀ col ∈ l.columns, Written values col (old.cell col.name)
      ((⟨old.id, a.changedCells l old.cells⟩ : Row).cell col.name) :=
    fun col hcol => written_changedCells k hvalues ha hfits.names _ hcol
  have hcells' : ∀ col ∈ l.columns, Written others col (old.cell col.name)
      ((⟨old.id, b.changedCells l old.cells⟩ : Row).cell col.name) :=
    fun col hcol => written_changedCells k hothers hb hfits.names _ hcol
  have hsame : ∀ col ∈ l.columns, (∀ d, (col.name, d) ∈ values ↔ (col.name, d) ∈ others) →
      (⟨old.id, b.changedCells l old.cells⟩ : Row).cell col.name =
        (⟨old.id, a.changedCells l old.cells⟩ : Row).cell col.name :=
    fun col hcol hiff => (hcells' col hcol).unique hnodup ((hcells col hcol).congr hiff)
  have haccept' : db.accept l ((db.rows l.name).filter (·.id != old.id))
      ⟨old.id, b.changedCells l old.cells⟩ = .ok () := by
    refine accept_freely h hl haccept ((names_changedCells a l _).trans hfits.names)
      (fun col hcol => (hcells col hcol).keeps (hfits.kept col hcol)) rfl
      ((names_changedCells b l _).trans hfits.names)
      (fun col hcol => (hcells' col hcol).keeps (hfits.kept col hcol)) fun col hcol => ?_
    rcases hagree col hcol with hiff | ⟨hfree, hoptional⟩
    · exact .inl (hsame col hcol hiff)
    · exact .inr ⟨hfree, fun hrequired => absurd hrequired (by rw [hoptional]; decide)⟩
  have hupdate' := update_of_accepted h k hothers hnodup hb hold hid haccept'
  exact ⟨old, hold, ⟨old.id, a.changedCells l old.cells⟩, ⟨old.id, b.changedCells l old.cells⟩, hid,
    rfl, rfl, rfl, hupdate', hcells', hsame⟩

/-! ## One value -/

/-- One value for a column is a value for columns. -/
theorem forColumns_single (k : Kept c l) (hcol : col ∈ l.columns) (d : Datum) :
    ForColumns c [(col.name, d)] := by
  have hnodup := k.fieldNames_nodup
  rw [k.fieldNames_eq] at hnodup
  have hmem : col.name ∈ l.columns.map (·.name) := List.mem_map_of_mem hcol
  intro v hv
  rw [List.mem_singleton.1 hv, k.fieldNames_eq]
  exact ⟨List.mem_cons_of_mem _ hmem, fun heq => (List.nodup_cons.1 hnodup).1 (heq ▸ hmem)⟩

theorem nodup_single (name : String) (d : Datum) : (Record.names [(name, d)]).Nodup := by
  simp [Record.names]

theorem assign_single (k : Kept c l) (hcol : col ∈ l.columns) {d : Datum} {v : Cell}
    (hbind : Cell.bind d = .ok v) : l.assign [(col.name, d)] = .ok [(.column col.name, v)] := by
  rw [assign_eq k (forColumns_single k hcol d)]
  refine mapM_cons_ok ?_ rfl
  rw [hbind]
  rfl

/-- Assigning to one column leaves the cells of the others. -/
theorem cell_changed_of_ne (l : Layout) (old : Row) {column name : String} (v : Cell)
    (hne : name ≠ column) :
    (⟨old.id, Assignments.changedCells [(.column column, v)] l old.cells⟩ : Row).cell name =
      old.cell name := by
  have hlookup : ([(.column column, v)] : Assignments).reverse.lookup (.column name) = none := by
    rw [List.reverse_singleton, List.lookup_cons, beq_false_of_ne]
    · rfl
    · exact fun heq => hne (Reference.column.inj heq)
  show ((Assignments.changedCells [(.column column, v)] l old.cells).lookup name).getD _ = _
  rw [lookup_changedCells, hlookup]
  exact congrArg (Option.getD · Cell.null) Option.map_id'

/-- Writing a value to a column without rules succeeds, and changes no other column. -/
theorem update_free (h : db.Sound) (k : Kept c l) (hcol : col ∈ l.columns)
    (hfree : l.IsFree col) {id : Datum} {old : Row} (hold : old ∈ db.rows l.name)
    (hid : id.Denotes old.id) {d : Datum} {v : Cell} (hbind : Cell.bind d = .ok v)
    (hfilled : col.required = true → (col.affinity.store v).isNull = false) :
    ∃ row : Row, row.id = old.id ∧ row.cell col.name = col.affinity.store v ∧
      (∀ name, name ≠ col.name → row.cell name = old.cell name) ∧
      db.update c id [(col.name, d)] = .ok (db.amended l row, true) := by
  have hl := k.mem_standard
  have hvalues := forColumns_single k hcol d
  have hassign := assign_single k hcol hbind
  have hfits := h.fits l hl old hold
  let row : Row := ⟨old.id, Assignments.changedCells [(.column col.name, v)] l old.cells⟩
  have hwritten : ∀ other ∈ l.columns,
      Written [(col.name, d)] other (old.cell other.name) (row.cell other.name) :=
    fun other hother => written_changedCells k hvalues hassign hfits.names _ hother
  have hown : row.cell col.name = col.affinity.store v :=
    (hwritten col hcol).unique (nodup_single _ d)
      (.inl ⟨d, v, List.mem_singleton_self _, hbind, rfl⟩)
  have hcells : ∀ name, name ≠ col.name → row.cell name = old.cell name :=
    fun name hne => cell_changed_of_ne l old v hne
  have haccept : db.accept l ((db.rows l.name).filter (·.id != old.id)) row = .ok () := by
    refine accept_freely h hl (accept_self h hl hold) hfits.names hfits.kept rfl
      ((names_changedCells _ l _).trans hfits.names)
      (fun other hother => (hwritten other hother).keeps (hfits.kept other hother)) fun other hother => ?_
    by_cases hname : other.name = col.name
    · obtain rfl := eq_of_mark_eq k.columns_nodup hother hcol hname
      exact .inr ⟨hfree, fun hrequired => hown ▸ hfilled hrequired⟩
    · exact .inl (hcells _ hname)
  have hupdate := update_of_accepted h k hvalues (nodup_single _ d) hassign hold hid haccept
  exact ⟨row, rfl, hown, hcells, hupdate⟩

/-- A value that cannot be bound is refused. -/
theorem update_unbindable (h : db.Sound) (k : Kept c l) (hcol : col ∈ l.columns)
    (id : Datum) {d : Datum} {failure : Failure} (hbind : Cell.bind d = .error failure) :
    db.update c id [(col.name, d)] = .error failure := by
  refine update_unbound h k (forColumns_single k hcol d) (nodup_single _ d) id ?_
  rw [assign_eq k (forColumns_single k hcol d), List.mapM_cons, hbind]
  rfl

end Database

end Store
end SchoolCatalog
