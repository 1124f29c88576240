import SchoolCatalog.Proofs.Store.Changes

/-!
# Writing to a sound database

What inserting and updating do to a sound database if they succeed: a table grows by one row, or one
row changes, and the cells of that row are those given, or what was there before. What is written keeps
the rules, so the database stays sound.

Results:
1. `accepted_of_insert`, `accepted_of_update`: what a write that succeeds went through.
2. `insert_spec`, `update_spec`: what a write that succeeds has done.
-/

namespace SchoolCatalog

open Store

/-- The identity that a value stands for where it is compared with identities. -/
def Datum.Denotes (d : Datum) (i : Int) : Prop :=
  ∃ c, Cell.bind d = .ok c ∧ Affinity.integer.adapt c = .int i

theorem Datum.Denotes.unique {d : Datum} {i j : Int} (hi : d.Denotes i) (hj : d.Denotes j) :
    i = j := by
  obtain ⟨c, hc, hint⟩ := hi
  obtain ⟨c', hc', hint'⟩ := hj
  cases hc.symm.trans hc'
  cases hint.symm.trans hint'
  rfl

theorem Datum.denotes_int {i : Int} (h : (Cell.int i).Proper) : (Datum.int i).Denotes i := by
  have hfits : Number.fitsWord i = true := h
  refine ⟨.int i, ?_, rfl⟩
  rw [Cell.bind, if_pos hfits]

/-- An integer stands for no identity but itself. -/
theorem Datum.Denotes.eq_of_int {i j : Int} (h : (Datum.int i).Denotes j) : i = j := by
  obtain ⟨c, hbind, hadapt⟩ := h
  rw [Cell.bind] at hbind
  split at hbind
  · cases hbind
    exact Cell.int.inj hadapt
  · cases hbind

namespace Store

variable {db : Database} {c : Collection} {l : Layout} {values : Record}

/-! ## Assigned values -/

/-- What the cell of a column holds after values are written: what one of the values for it turns
into, or what was there before if there is none. -/
def Written (values : Record) (col : Column) (before after : Cell) : Prop :=
  (∃ d v, (col.name, d) ∈ values ∧ Cell.bind d = .ok v ∧ after = col.affinity.store v) ∨
    (∀ d, (col.name, d) ∉ values) ∧ after = before

/-- Whether values are for columns of a collection other than its identity. -/
def ForColumns (c : Collection) (values : Record) : Prop :=
  ∀ v ∈ values, v.1 ∈ c.fieldNames ∧ v.1 ≠ "id"

theorem forColumns_writable (c : Collection) (values : Record) :
    ForColumns c (writable c values) := by
  intro v hv
  have := (List.mem_filter.1 hv).2
  simp only [Bool.and_eq_true, bne_iff_ne, ne_eq] at this
  exact ⟨hasField_iff.1 this.1, this.2⟩

theorem resolve_column (k : Kept c l) (h : ForColumns c values) {v : String × Datum}
    (hv : v ∈ values) : l.resolve v.1 = .column v.1 := by
  rw [k.resolve_field (h v hv).1, fieldReference, if_neg (h v hv).2]

theorem assign_eq (k : Kept c l) (h : ForColumns c values) :
    l.assign values = values.mapM fun v => (Cell.bind v.2).map (Reference.column v.1, ·) := by
  unfold Layout.assign
  refine (if_pos ?_).trans ?_
  · rw [List.all_eq_true]
    intro v hv
    dsimp only
    rw [resolve_column k h hv]
  · refine mapM_congr fun v hv => ?_
    dsimp only
    rw [resolve_column k h hv]

/-- The assigned values are the bound ones, by column. -/
theorem mem_assigned (k : Kept c l) (h : ForColumns c values) {a : Assignments}
    (ha : l.assign values = .ok a) :
    (∀ e ∈ a, ∃ v ∈ values, e.1 = .column v.1 ∧ Cell.bind v.2 = .ok e.2) ∧
      ∀ v ∈ values, ∃ e ∈ a, e.1 = .column v.1 ∧ Cell.bind v.2 = .ok e.2 := by
  rw [assign_eq k h] at ha
  obtain ⟨hback, hforth⟩ := mapM_ok ha
  have hentry {v : String × Datum} {e : Reference × Cell}
      (he : (Cell.bind v.2).map (Reference.column v.1, ·) = .ok e) :
      e.1 = .column v.1 ∧ Cell.bind v.2 = .ok e.2 := by
    cases hbind : Cell.bind v.2 with
    | error fault => rw [hbind] at he; exact nomatch he
    | ok cell => rw [hbind] at he; cases he; exact ⟨rfl, rfl⟩
  constructor
  · intro e he
    obtain ⟨v, hv, hve⟩ := hback e he
    exact ⟨v, hv, hentry hve⟩
  · intro v hv
    obtain ⟨e, he, hve⟩ := hforth v hv
    exact ⟨e, he, hentry hve⟩

theorem identity?_assigned (k : Kept c l) (h : ForColumns c values) {a : Assignments}
    (ha : l.assign values = .ok a) : a.identity? = none := by
  have hnone : a.reverse.lookup .identity = none := by
    rw [List.lookup_eq_none_iff]
    intro e he
    obtain ⟨v, _, hcolumn, _⟩ := (mem_assigned k h ha).1 e (List.mem_reverse.1 he)
    rw [hcolumn]
    rfl
  rw [Assignments.identity?, hnone]
  rfl

/-- Looking up the cell for a column among assigned values, in either order. -/
theorem written_of_lookup (k : Kept c l) (h : ForColumns c values) {a entries : Assignments}
    (ha : l.assign values = .ok a) (hentries : ∀ e, e ∈ entries ↔ e ∈ a) {col : Column}
    {before after : Cell}
    (hafter : after = match entries.lookup (.column col.name) with
      | some v => col.affinity.store v
      | none => before) : Written values col before after := by
  cases hlookup : entries.lookup (.column col.name) with
  | some v =>
    rw [hlookup] at hafter
    obtain ⟨⟨name, d⟩, hd, hname, hbind⟩ :=
      (mem_assigned k h ha).1 _ ((hentries _).1 (mem_of_lookup hlookup))
    cases hname
    exact .inl ⟨d, v, hd, hbind, hafter⟩
  | none =>
    rw [hlookup] at hafter
    refine .inr ⟨fun d hd => ?_, hafter⟩
    obtain ⟨e, he, hname, _⟩ := (mem_assigned k h ha).2 _ hd
    have := List.lookup_eq_none_iff.1 hlookup e ((hentries e).2 he)
    rw [hname] at this
    exact absurd rfl (bne_iff_ne.1 this)

theorem lookup_map_names {α β : Type} (name : α → String) (f : α → β) {items : List α}
    (hnodup : (items.map name).Nodup) {a : α} (ha : a ∈ items) :
    (items.map fun a => (name a, f a)).lookup (name a) = some (f a) := by
  induction items with
  | nil => exact nomatch ha
  | cons b rest ih =>
    rw [List.map_cons, List.nodup_cons] at hnodup
    rw [List.map_cons, List.lookup_cons]
    rcases List.mem_cons.1 ha with rfl | hrest
    · rw [beq_self_eq_true]
    · have hne : name a ≠ name b := fun heq => hnodup.1 (heq ▸ List.mem_map_of_mem hrest)
      rw [beq_false_of_ne hne]
      exact ih hnodup.2 hrest

/-- The cells of a new row are those given or the defaults. -/
theorem written_newCells (k : Kept c l) (h : ForColumns c values) {a : Assignments}
    (ha : l.assign values = .ok a) (id : Int) {col : Column} (hcol : col ∈ l.columns) :
    Written values col col.default ((⟨id, a.newCells l⟩ : Row).cell col.name) := by
  refine written_of_lookup k h ha (fun e => Iff.rfl) ?_
  rw [Row.cell, Assignments.newCells, lookup_map_names (·.name) _ k.columns_nodup hcol]
  rfl

theorem lookup_changedCells (a : Assignments) (l : Layout) (cells : List (String × Cell))
    (name : String) :
    (a.changedCells l cells).lookup name = (cells.lookup name).map fun cell =>
      match a.reverse.lookup (.column name), l.column? name with
      | some value, some c => c.affinity.store value
      | _, _ => cell := by
  let written (name : String) (cell : Cell) : Cell :=
    match a.reverse.lookup (.column name), l.column? name with
    | some value, some c => c.affinity.store value
    | _, _ => cell
  exact lookup_map_values written cells name

/-- The cells of a changed row are those given or the ones before. -/
theorem written_changedCells (k : Kept c l) (h : ForColumns c values) {a : Assignments}
    (ha : l.assign values = .ok a) {row : Row} (hnames : row.cells.map (·.1) = l.columns.map (·.name))
    (id : Int) {col : Column} (hcol : col ∈ l.columns) :
    Written values col (row.cell col.name)
      ((⟨id, a.changedCells l row.cells⟩ : Row).cell col.name) := by
  refine written_of_lookup k h ha (fun e => List.mem_reverse) ?_
  have hpresent : (row.cells.lookup col.name).isSome := by
    rw [List.lookup_isSome_iff]
    have hmem : col.name ∈ row.cells.map (·.1) := hnames ▸ List.mem_map_of_mem hcol
    obtain ⟨e, he, hname⟩ := List.mem_map.1 hmem
    exact ⟨e, he, beq_iff_eq.2 hname.symm⟩
  obtain ⟨cell, hcell⟩ := Option.isSome_iff_exists.1 hpresent
  unfold Row.cell
  rw [lookup_changedCells, hcell, k.column?_eq hcol]
  cases a.reverse.lookup (.column col.name) <;> rfl

/-! ## Rules for what is written -/

theorem keeps_default (hl : l ∈ Layout.standard) {col : Column} (hcol : col ∈ l.columns) :
    col.affinity.Keeps col.default := by
  have hall : ∀ l ∈ Layout.standard, ∀ col ∈ l.columns,
      col.default.Proper ∧ col.affinity.store col.default = col.default := by
    decide
  exact ⟨col.default, hall l hl col hcol⟩

theorem Written.keeps {col : Column} {before after : Cell} (h : Written values col before after)
    (hbefore : col.affinity.Keeps before) : col.affinity.Keeps after := by
  rcases h with ⟨d, v, _, hbind, rfl⟩ | ⟨_, rfl⟩
  · exact ⟨v, Cell.bind_proper hbind, rfl⟩
  · exact hbefore

/-- A column that names a row of another table is one of integers and must not be null. -/
theorem link_column (hl : l ∈ Layout.standard) {link : String × String} (hlink : link ∈ l.parents) :
    ∃ col ∈ l.columns, col.name = link.1 ∧ col.required = true ∧ col.affinity = .integer := by
  revert l link
  decide

/-- Whether every row that a row names is there, said with identities. -/
theorem namesExist_iff (h : db.Sound) (hl : l ∈ Layout.standard) {row : Row}
    (hfits : row.Fits l) :
    db.namesExist l row = true ↔
      ∀ link ∈ l.parents, ∃ p ∈ db.rows link.2, row.cell link.1 = .int p.id := by
  rw [Database.namesExist, List.all_eq_true]
  refine forall_congr' fun link => forall_congr' fun hlink => ?_
  obtain ⟨col, hcol, hname, hrequired, hinteger⟩ := link_column hl hlink
  obtain ⟨parent, hparent, hparentName⟩ := List.mem_map.1 (parent_standard hl hlink)
  have hnull := hfits.required col hcol hrequired
  have hkeeps := hfits.kept col hcol
  rw [hname] at hnull hkeeps
  rw [hinteger] at hkeeps
  dsimp only
  rw [hnull, Bool.false_or, ← hparentName, h.standing.table?_eq hparent, List.any_eq_true]
  refine exists_congr fun p => and_congr_right fun hp => ?_
  rw [decide_eq_true_eq]
  exact hkeeps.compare_int (h.isIdentity hparent hp)

/-- A row whose columns keep its values is accepted beside others if and only if it fits its table,
differs from the others in identity and wherever it must, and every row that it names is there. -/
theorem accept_iff (h : db.Sound) (hl : l ∈ Layout.standard) {others : List Row} {row : Row}
    (hnames : row.cells.map (·.1) = l.columns.map (·.name))
    (hkept : ∀ col ∈ l.columns, col.affinity.Keeps (row.cell col.name)) :
    db.accept l others row = .ok () ↔
      row.Fits l ∧ (∀ other ∈ others, other.id ≠ row.id) ∧
      (∀ columns ∈ l.unique, ∀ other ∈ others, ¬ row.Agrees columns other) ∧
      ∀ link ∈ l.parents, ∃ p ∈ db.rows link.2, row.cell link.1 = .int p.id := by
  unfold Database.accept
  constructor
  · intro haccept
    split at haccept
    next => exact nomatch haccept
    next hnone =>
      split at haccept
      next hexist =>
        obtain ⟨hrequired, hchecked, hids, hunique⟩ := violation?_eq_none_iff.1 hnone
        have hfits : row.Fits l :=
          { names := hnames, kept := hkept, required := hrequired, checked := hchecked }
        exact ⟨hfits, hids, hunique, (namesExist_iff h hl hfits).1 hexist⟩
      next => exact nomatch haccept
  · rintro ⟨hfits, hids, hunique, hnamed⟩
    rw [violation?_eq_none_iff.2 ⟨hfits.required, hfits.checked, hids, hunique⟩]
    exact if_pos ((namesExist_iff h hl hfits).2 hnamed)

/-! ## Places of rows -/

theorem insertRow_cons_of_lt {row r : Row} {rest : List Row} (h : r.id < row.id) :
    insertRow row (r :: rest) = r :: insertRow row rest := by
  simp [insertRow, h]

theorem insertRow_cons_of_le {row r : Row} {rest : List Row} (h : row.id ≤ r.id) :
    insertRow row (r :: rest) = row :: r :: rest := by
  simp [insertRow, Int.not_lt.2 h]

theorem insertRow_last {row : Row} {rows : List Row} (h : ∀ r ∈ rows, r.id < row.id) :
    insertRow row rows = rows ++ [row] := by
  induction rows with
  | nil => rfl
  | cons r rest ih =>
    rw [insertRow_cons_of_lt (h r (List.mem_cons_self ..)),
      ih fun s hs => h s (List.mem_cons_of_mem r hs), List.cons_append]

/-- A row that is put back with other cells takes the place it had. -/
theorem insertRow_filter {row old : Row} {rows : List Row} (hordered : rows.Pairwise (·.id < ·.id))
    (hold : old ∈ rows) (hid : row.id = old.id) :
    insertRow row (rows.filter (·.id != old.id)) =
      rows.map fun r => if r.id = row.id then row else r := by
  induction rows with
  | nil => exact nomatch hold
  | cons r rest ih =>
    obtain ⟨hfirst, hrest⟩ := List.pairwise_cons.1 hordered
    rcases List.mem_cons.1 hold with rfl | hold
    · -- the row is taken out in front, and goes back before all rows after it
      have hgreater : ∀ s ∈ rest, row.id < s.id := fun s hs => hid ▸ hfirst s hs
      have hfilter : (old :: rest).filter (·.id != old.id) = rest := by
        rw [List.filter_cons_of_neg (by simp)]
        refine List.filter_eq_self.2 fun s hs => ?_
        have := hfirst s hs
        simp only [bne_iff_ne, ne_eq]
        omega
      have hmap : (rest.map fun r => if r.id = row.id then row else r) = rest := by
        refine (List.map_congr_left fun s hs => ?_).trans (List.map_id rest)
        have := hgreater s hs
        rw [if_neg (by omega)]
        rfl
      rw [hfilter, List.map_cons, if_pos hid.symm, hmap]
      cases rest with
      | nil => rfl
      | cons s rest =>
        exact insertRow_cons_of_le (Int.le_of_lt (hgreater s (List.mem_cons_self ..)))
    · have hless : r.id < row.id := hid ▸ hfirst old hold
      have hkeep : (r :: rest).filter (·.id != old.id) = r :: rest.filter (·.id != old.id) := by
        rw [List.filter_cons_of_pos]
        simp only [bne_iff_ne, ne_eq]
        omega
      rw [hkeep, insertRow_cons_of_lt hless, List.map_cons, if_neg (by omega), ih hrest hold]

/-! ## Inserting -/

namespace Database

/-- The next identity follows the greatest that was handed out. -/
theorem nextId_eq (h : db.Sound) (hl : l ∈ Layout.standard) :
    db.nextId ⟨l, db.rows l.name⟩ =
      if db.greatestHandedOut l.name < Number.greatestWord then
        .ok (db.greatestHandedOut l.name + 1) else .error .unavailable := by
  have hfold (ids : List Int) (greatest : Int) (hids : ∀ i ∈ ids, i ≤ greatest) :
      ids.foldl max greatest = greatest := by
    induction ids with
    | nil => rfl
    | cons i rest ih =>
      rw [List.foldl_cons, Int.max_eq_left (hids i (List.mem_cons_self ..))]
      exact ih fun j hj => hids j (List.mem_cons_of_mem i hj)
  rw [nextId]
  dsimp only
  rw [hfold]
  intro i hi
  obtain ⟨r, hr, rfl⟩ := List.mem_map.1 hi
  exact (h.numbered l hl r hr).2

/-- The next identity follows those of all rows. -/
theorem Sound.before_next (h : db.Sound) (hl : l ∈ Layout.standard) :
    ∀ row ∈ db.rows l.name, row.id < db.greatestHandedOut l.name + 1 := by
  intro row hrow
  have := (h.numbered l hl row hrow).2
  omega

/-- What an insertion that succeeds went through. -/
theorem accepted_of_insert (h : db.Sound) (k : Kept c l) (hvalues : ForColumns c values)
    {after : Database} {id : Int} (hinsert : db.insert c values = .ok (after, id)) :
    ∃ a, l.assign values = .ok a ∧ db.greatestHandedOut l.name < Number.greatestWord ∧
      id = db.greatestHandedOut l.name + 1 ∧
      db.accept l (db.rows l.name) ⟨id, a.newCells l⟩ = .ok () ∧
      after = db.grown l ⟨id, a.newCells l⟩ := by
  have hl := k.mem_standard
  unfold insert at hinsert
  obtain ⟨_, _, hinsert⟩ := bind_eq_ok.1 hinsert
  rw [h.standing.table_eq k] at hinsert
  obtain ⟨_, htable, hinsert⟩ := bind_eq_ok.1 hinsert
  cases htable
  obtain ⟨a, ha, hinsert⟩ := bind_eq_ok.1 hinsert
  obtain ⟨next, hid, hinsert⟩ := bind_eq_ok.1 hinsert
  obtain ⟨_, haccept, hinsert⟩ := bind_eq_ok.1 hinsert
  rw [newId, identity?_assigned k hvalues ha] at hid
  dsimp only at hid
  rw [nextId_eq h hl] at hid
  split at hid
  next hroom =>
    obtain rfl := Except.ok.inj hid
    rw [insertRow_last (h.before_next hl)] at hinsert
    obtain ⟨rfl, rfl⟩ := Prod.mk.inj (Except.ok.inj hinsert)
    exact ⟨a, ha, hroom, rfl, haccept, rfl⟩
  next => exact nomatch hid

/-- The cells of a new row stand under the names of its columns. -/
theorem names_newCells (a : Assignments) (l : Layout) :
    (a.newCells l).map (·.1) = l.columns.map (·.name) := by
  rw [Assignments.newCells, List.map_map]
  rfl

/-- An insertion that succeeds adds a row of the values given and of defaults, which keeps the rules. -/
theorem insert_spec (h : db.Sound) (k : Kept c l) (hvalues : ForColumns c values) {after : Database}
    {id : Int} (hinsert : db.insert c values = .ok (after, id)) :
    ∃ row : Row, row.id = id ∧ after = db.grown l row ∧ after.Sound ∧
      id = db.greatestHandedOut l.name + 1 ∧
      ∀ col ∈ l.columns, Written values col col.default (row.cell col.name) := by
  have hl := k.mem_standard
  obtain ⟨a, ha, hroom, rfl, haccept, rfl⟩ := accepted_of_insert h k hvalues hinsert
  have hcells : ∀ col ∈ l.columns, Written values col col.default
      ((⟨db.greatestHandedOut l.name + 1, a.newCells l⟩ : Row).cell col.name) :=
    fun col hcol => written_newCells k hvalues ha _ hcol
  obtain ⟨hfits, _, hunique, hnamed⟩ := (accept_iff h hl (names_newCells a l)
    fun col hcol => (hcells col hcol).keeps (keeps_default hl hcol)).1 haccept
  exact ⟨_, rfl, rfl, h.grown hl rfl (Int.add_one_le_of_lt hroom) hfits hunique hnamed, rfl, hcells⟩

/-! ## Updating -/

/-- A key that is bound stands for the identity of a row if the row has the identity that the key is
compared as. -/
theorem hasId_iff {key : Cell} (hkey : key.Proper) {row : Row} (hrow : Cell.IsIdentity row.id) :
    hasId key row = true ↔ Affinity.integer.adapt key = .int row.id := by
  rw [hasId, Bool.and_eq_true, decide_eq_true_eq, Affinity.compare_adapt hkey hrow]
  constructor
  · exact fun h => h.2
  · intro h
    refine ⟨?_, h⟩
    cases key with
    | null => exact nomatch h
    | int i => rfl
    | real x => rfl
    | text s => rfl
    | blob b => rfl

/-- The row that a key finds is the one with the identity that the key stands for. -/
theorem find?_hasId (h : db.Sound) (hl : l ∈ Layout.standard) {id : Datum} {key : Cell}
    (hkey : Cell.bind id = .ok key) {row : Row} (hrow : row ∈ db.rows l.name) :
    (db.rows l.name).find? (hasId key) = some row ↔ id.Denotes row.id := by
  have hproper := Cell.bind_proper hkey
  have hhas {r : Row} (hr : r ∈ db.rows l.name) : hasId key r = true ↔ id.Denotes r.id := by
    rw [hasId_iff hproper (h.isIdentity hl hr)]
    constructor
    · exact fun hadapt => ⟨key, hkey, hadapt⟩
    · rintro ⟨key', hkey', hadapt⟩
      cases hkey.symm.trans hkey'
      exact hadapt
  constructor
  · exact fun hfind => (hhas hrow).1 (List.find?_some hfind)
  · intro hdenotes
    refine find?_eq_some_of_unique hrow ((hhas hrow).2 hdenotes) fun r hr hrid => ?_
    exact h.eq_of_id hl hr hrow (((hhas hr).1 hrid).unique hdenotes)

/-- Accepting a row beside the rows with other identities keeps the database sound when it takes the
place of the one with its own. -/
theorem amended_of_accepted (h : db.Sound) (hl : l ∈ Layout.standard) {old row : Row}
    (hold : old ∈ db.rows l.name) (hid : row.id = old.id)
    (hnames : row.cells.map (·.1) = l.columns.map (·.name))
    (hkept : ∀ col ∈ l.columns, col.affinity.Keeps (row.cell col.name))
    (haccept : db.accept l ((db.rows l.name).filter (·.id != old.id)) row = .ok ()) :
    (db.amended l row).Sound := by
  obtain ⟨hfits, _, hunique, hnamed⟩ := (accept_iff h hl hnames hkept).1 haccept
  refine h.amended hl hold hid hfits (fun columns hcolumns other hother hne => ?_) hnamed
  exact hunique columns hcolumns other (List.mem_filter.2 ⟨hother, by simpa [hid] using hne⟩)

/-- A row that keeps its identity leaves no other without the row that it names. -/
theorem keepsNames_self (db : Database) (l : Layout) (id : Int) : db.keepsNames l id id = true := by
  rw [keepsNames, decide_eq_true rfl, Bool.true_or]

/-- What an update that succeeds went through, if it finds its row. -/
theorem accepted_of_update (h : db.Sound) (k : Kept c l) (hvalues : ForColumns c values) {id : Datum}
    {after : Database} {found : Bool} (hupdate : db.update c id values = .ok (after, found)) :
    ∃ a, l.assign values = .ok a ∧
      ((found = false ∧ after = db ∧ ∀ row ∈ db.rows l.name, ¬ id.Denotes row.id) ∨
        (found = true ∧ ∃ old ∈ db.rows l.name, id.Denotes old.id ∧
          db.accept l ((db.rows l.name).filter (·.id != old.id))
            ⟨old.id, a.changedCells l old.cells⟩ = .ok () ∧
          after = db.amended l ⟨old.id, a.changedCells l old.cells⟩)) := by
  have hl := k.mem_standard
  unfold update at hupdate
  obtain ⟨_, _, hupdate⟩ := bind_eq_ok.1 hupdate
  rw [h.standing.table_eq k] at hupdate
  obtain ⟨_, htable, hupdate⟩ := bind_eq_ok.1 hupdate
  cases htable
  obtain ⟨a, ha, hupdate⟩ := bind_eq_ok.1 hupdate
  obtain ⟨key, hkey, hupdate⟩ := bind_eq_ok.1 hupdate
  refine ⟨a, ha, ?_⟩
  cases hfind : (db.rows l.name).find? (hasId key) with
  | none =>
    rw [hfind] at hupdate
    cases hupdate
    refine .inl ⟨rfl, rfl, fun row hrow hdenotes => ?_⟩
    rw [(find?_hasId h hl hkey hrow).2 hdenotes] at hfind
    exact nomatch hfind
  | some old =>
    rw [hfind] at hupdate
    have hold := List.mem_of_find?_eq_some hfind
    obtain ⟨next, hid, hupdate⟩ := bind_eq_ok.1 hupdate
    rw [changedId, identity?_assigned k hvalues ha] at hid
    obtain rfl := Except.ok.inj hid
    obtain ⟨_, haccept, hupdate⟩ := bind_eq_ok.1 hupdate
    rw [db.keepsNames_self] at hupdate
    obtain ⟨hafter, hfound⟩ := Prod.mk.inj (Except.ok.inj hupdate)
    rw [insertRow_filter (h.ordered l hl) hold (by rfl)] at hafter
    exact .inr ⟨hfound.symm, old, hold, (find?_hasId h hl hkey hold).1 hfind, haccept, hafter.symm⟩

/-- The cells of a changed row stand under the names that they stood under. -/
theorem names_changedCells (a : Assignments) (l : Layout) (cells : List (String × Cell)) :
    (a.changedCells l cells).map (·.1) = cells.map (·.1) := by
  rw [Assignments.changedCells, List.map_map]
  rfl

/-- An update that succeeds and finds its row changes the cells of that row to the values given, and
the row keeps the rules; one that finds none changes nothing. -/
theorem update_spec (h : db.Sound) (k : Kept c l) (hvalues : ForColumns c values) {id : Datum}
    {after : Database} {found : Bool} (hupdate : db.update c id values = .ok (after, found)) :
    (found = false ∧ after = db ∧ ∀ row ∈ db.rows l.name, ¬ id.Denotes row.id) ∨
      (found = true ∧ ∃ old ∈ db.rows l.name, ∃ row : Row, id.Denotes old.id ∧ row.id = old.id ∧
        after = db.amended l row ∧ after.Sound ∧
        ∀ col ∈ l.columns, Written values col (old.cell col.name) (row.cell col.name)) := by
  have hl := k.mem_standard
  obtain ⟨a, ha, hnone | ⟨hfound, old, hold, hid, haccept, rfl⟩⟩ := accepted_of_update h k hvalues hupdate
  · exact .inl hnone
  · have hbefore := h.fits l hl old hold
    have hcells : ∀ col ∈ l.columns, Written values col (old.cell col.name)
        ((⟨old.id, a.changedCells l old.cells⟩ : Row).cell col.name) :=
      fun col hcol => written_changedCells k hvalues ha hbefore.names _ hcol
    have hsame : (⟨old.id, a.changedCells l old.cells⟩ : Row).id = old.id := rfl
    have hsound := amended_of_accepted h hl hold hsame ((names_changedCells a l _).trans hbefore.names)
      (fun col hcol => (hcells col hcol).keeps (hbefore.kept col hcol)) haccept
    exact .inr ⟨hfound, old, hold, ⟨old.id, a.changedCells l old.cells⟩, hid, hsame, rfl, hsound,
      hcells⟩

theorem sound_of_update (h : db.Sound) (k : Kept c l) (hvalues : ForColumns c values) {id : Datum}
    {after : Database} {found : Bool} (hupdate : db.update c id values = .ok (after, found)) :
    after.Sound := by
  rcases update_spec h k hvalues hupdate with ⟨_, rfl, _⟩ | ⟨_, _, _, _, _, _, rfl, hsound, _⟩
  · exact h
  · exact hsound

end Database

end Store
end SchoolCatalog
