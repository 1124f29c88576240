import SchoolCatalog.Proofs.Store.Matching
import SchoolCatalog.Proofs.Store.Sorting

/-!
# Hidden values

What a selection makes of the values in hidden columns. Two databases are alike if they are the same
once these values are taken out. Filtering and showing go by the columns that are not hidden, so from
alike databases the same rows are taken and the same is shown of each; sorting goes by every declared
column, so that the order of the rows may differ where a key is hidden.

Results:
1. `holds_hiding`, `recordOf_hiding`, `sortRows_hiding`: what each part of a selection looks at.
2. `counted_alike`: counting does not depend on hidden values.
3. `found_alike`: selections from alike databases show the same rows, in the same order if no key of it
   is hidden.
-/

namespace SchoolCatalog.Store

/-- A row with null in the place of what it holds in some columns. -/
def Row.hiding (hidden : List String) (row : Row) : Row :=
  { row with cells := row.cells.map fun (name, cell) =>
      (name, if hidden.contains name then .null else cell) }

/-- A table without the hidden values of a collection, if it is the table of the collection. -/
def Table.hiding (c : Collection) (t : Table) : Table :=
  { t with rows := if t.layout.name = c.name then t.rows.map (Row.hiding c.hidden) else t.rows }

/-- A database without the hidden values of a collection. -/
def Database.hiding (db : Database) (c : Collection) : Database :=
  { db with tables := db.tables.map (Table.hiding c) }

/-- Every table of a database is one of the catalog; not all of them need be there. -/
def Database.Catalogued (db : Database) : Prop := ∀ t ∈ db.tables, t.layout ∈ Layout.standard

variable {db other : Database} {c : Collection} {l : Layout} {s : Selection} {rows : List Row}
  {conditions : List Condition} {clauses : List Clause}

/-! ## Parts of a selection -/

theorem cell_hiding {hidden : List String} {f : String} (h : f ∉ hidden) (row : Row) :
    (row.hiding hidden).cell f = row.cell f := by
  have hlookup := lookup_map_values
    (fun name (cell : Cell) => if hidden.contains name then .null else cell) row.cells f
  unfold Row.cell Row.hiding
  rw [hlookup]
  cases row.cells.lookup f <;> simp [h]

/-- What a row holds under a field that is not hidden. -/
theorem read_hiding {hidden : List String} {f : String} (h : f ∉ hidden) (row : Row) :
    (row.hiding hidden).read (fieldReference f) = row.read (fieldReference f) := by
  unfold fieldReference
  split
  · rfl
  · exact cell_hiding h row

theorem not_hidden_of_queryable {f : String} (h : c.isQueryable f = true) : f ∉ c.hidden := by
  have := (Bool.and_eq_true_iff.1 h).2
  simpa [Collection.isHidden] using this

/-- The column that a test looks at. -/
def Test.column? : Test → Option Reference
  | .never => none
  | .among column _ => column
  | .differs column _ => column
  | .compares column _ _ => column

theorem order?_congr {column : Option Reference} {x y : Row}
    (h : ∀ reference, column = some reference → x.read reference = y.read reference)
    (value : Cell) : order? l x column value = order? l y column value := by
  cases column with
  | none => rfl
  | some reference => simp only [order?, h reference rfl]

/-- A test looks at nothing but its column. -/
theorem holds_congr {test : Test} {x y : Row}
    (h : ∀ reference, test.column? = some reference → x.read reference = y.read reference) :
    test.holds l x = test.holds l y := by
  cases test with
  | never => rfl
  | among column candidates =>
    have horder : ∀ value, order? l x column value = order? l y column value := order?_congr h
    simp only [Test.holds, horder]
  | differs column value =>
    have horder : order? l x column value = order? l y column value := order?_congr h value
    cases column with
    | none => rfl
    | some reference => simp only [Test.holds, horder, h reference rfl]
  | compares column relation value =>
    have horder : order? l x column value = order? l y column value := order?_congr h value
    simp only [Test.holds, horder]

theorem column?_ofClause {clause : Clause} {test : Test} (h : Test.ofClause l clause = .ok test) :
    test.column? = (columnOf? clause).map l.resolve := by
  cases clause with
  | never => cases h; rfl
  | among column candidates => obtain ⟨_, _, rfl⟩ := map_eq_ok.1 h; rfl
  | differs column value => obtain ⟨_, _, rfl⟩ := map_eq_ok.1 h; rfl
  | compares column relation value => obtain ⟨_, _, rfl⟩ := map_eq_ok.1 h; rfl

/-- The tests of compiled conditions do not depend on hidden values. -/
theorem holds_hiding (k : Kept c l) (hclauses : Condition.clauses? c conditions = some clauses)
    {tests : List Test} (htests : clauses.mapM (Test.ofClause l) = .ok tests) (row : Row) :
    tests.all (Test.holds l (row.hiding c.hidden)) = tests.all (Test.holds l row) := by
  rw [Bool.eq_iff_iff, List.all_eq_true, List.all_eq_true]
  refine forall₂_congr fun test htest => ?_
  obtain ⟨clause, hclause, hof⟩ := (mapM_ok htests).1 test htest
  rw [holds_congr (y := row) fun reference hreference => ?_]
  rw [column?_ofClause hof] at hreference
  obtain ⟨f, hf, rfl⟩ := Option.map_eq_some_iff.1 hreference
  have hqueryable := columnOf?_queryable hclauses hclause hf
  rw [k.resolve_field (hasField_iff.1 (Bool.and_eq_true_iff.1 hqueryable).1)]
  exact read_hiding (not_hidden_of_queryable hqueryable) row

/-- What is shown of a row does not depend on hidden values. -/
theorem recordOf_hiding (k : Kept c l) (projection : Option (List String)) (row : Row) :
    recordOf c (l.shown (columns c projection false)) (row.hiding c.hidden) =
      recordOf c (l.shown (columns c projection false)) row := by
  obtain ⟨hnodup, _, hdeclared⟩ := columns_spec k projection false
  rw [recordOf_shown k hnodup hdeclared, recordOf_shown k hnodup hdeclared]
  refine List.map_congr_left fun f hf => ?_
  rw [read_hiding (not_hidden_of_queryable (isQueryable_of_visible (columns_available k hf)))]

/-- Comparing rows looks at nothing but the columns of the keys. -/
theorem compareByAll_congr {keys : List RowKey} {x x' y y' : Row}
    (hx : ∀ key ∈ keys, x.read key.column = x'.read key.column)
    (hy : ∀ key ∈ keys, y.read key.column = y'.read key.column) :
    compareByAll keys x y = compareByAll keys x' y' := by
  induction keys with
  | nil => rfl
  | cons key rest ih =>
    rw [compareByAll, compareByAll, compareBy, compareBy, hx key (List.mem_cons_self ..),
      hy key (List.mem_cons_self ..), ih (fun key hkey => hx key (List.mem_cons_of_mem _ hkey))
        fun key hkey => hy key (List.mem_cons_of_mem _ hkey)]

/-- Rows are sorted without regard to hidden values if no key is hidden. -/
theorem sortRows_hiding (k : Kept c l) {sort : List SortKey}
    (h : ∀ key ∈ sort, key.field ∉ c.hidden) (rows : List Row) :
    (sortRows (rowKeys c sort) rows).map (Row.hiding c.hidden) =
      sortRows (rowKeys c sort) (rows.map (Row.hiding c.hidden)) := by
  have hread (row : Row) : ∀ key ∈ rowKeys c sort,
      row.read key.column = (row.hiding c.hidden).read key.column := by
    intro key hkey
    obtain ⟨sortKey, hsort, rfl⟩ := List.mem_map.1 hkey
    refine (read_hiding ?_ row).symm
    rcases List.mem_append.1 hsort with hsort | hsort
    · exact h sortKey (List.mem_filter.1 hsort).1
    · split at hsort
      · exact nomatch hsort
      · rw [List.mem_singleton.1 hsort]
        exact not_hidden_of_queryable (isQueryable_of_visible k.id_mem_visible)
  refine List.map_mergeSort fun x _ y _ => ?_
  rw [compareByAll_congr (hread x) (hread y)]

/-! ## Databases without hidden values -/

theorem tableNamed?_hiding (tables : List Table) (written : String) :
    tableNamed? (tables.map (Table.hiding c)) written =
      (tableNamed? tables written).map (Table.hiding c) :=
  List.find?_map ..

theorem listed_hiding (db : Database) (c : Collection) : (db.hiding c).listed = db.listed := by
  simp only [Database.listed, Database.hiding, List.map_map, List.isEmpty_map]
  rfl

theorem ownTables_hiding (db : Database) (c : Collection) :
    (db.hiding c).ownTables = db.ownTables := by
  simp only [Database.ownTables, listed_hiding]
  simp only [Database.hiding, List.isEmpty_map]

theorem layout_ownTables {t : Table} (h : t ∈ db.ownTables) :
    t.layout ∈ [.migrations, .sequences] ++ Layout.listings := by
  rcases List.mem_append.1 h with h | h
  · rcases List.mem_append.1 h with h | h
    · split at h
      · rw [List.mem_singleton.1 h]
        exact List.mem_cons_self ..
      · exact nomatch h
    · split at h
      · exact nomatch h
      · rw [List.mem_singleton.1 h]
        exact List.mem_cons_of_mem _ (List.mem_cons_self ..)
  · obtain ⟨layout, hlayout, rfl⟩ := List.mem_map.1 h
    exact List.mem_append_right _ hlayout

/-- No collection is kept in what a database keeps about itself. -/
theorem tableNamed?_ownTables (k : Kept c l) (db : Database) :
    tableNamed? db.ownTables c.name = none := by
  have hnames : ∀ m ∈ [.migrations, .sequences] ++ Layout.listings,
      sameName m.name (tableName c.name) = false := by
    cases k <;> decide
  refine List.find?_eq_none.2 fun t ht => ?_
  rw [hnames _ (layout_ownTables ht)]
  exact Bool.false_ne_true

/-- In a database with tables of the catalog alone, the table of a collection is found with its layout
or not at all, whether hidden values are taken out or not. -/
theorem readableTable_hiding (h : db.Catalogued) (k : Kept c l) :
    db.readableTable c.name = .error .unavailable ∧
      (db.hiding c).readableTable c.name = .error .unavailable ∨
    ∃ rows, db.readableTable c.name = .ok ⟨l, rows⟩ ∧
      (db.hiding c).readableTable c.name = .ok ⟨l, rows.map (Row.hiding c.hidden)⟩ := by
  have hhiding : tableNamed? (db.hiding c).tables c.name =
      (tableNamed? db.tables c.name).map (Table.hiding c) := tableNamed?_hiding ..
  unfold Database.readableTable
  rw [ownTables_hiding, tableNamed?_ownTables k, hhiding]
  cases htable : tableNamed? db.tables c.name with
  | none => exact .inl ⟨rfl, rfl⟩
  | some t =>
    obtain ⟨layout, rows⟩ := t
    have hsame : sameName layout.name (tableName c.name) = true := by
      simpa using List.find?_some htable
    have hl : layout = l := eq_of_tableName k (h _ (List.mem_of_find?_eq_some htable)) hsame
    have hname : l.name = c.name := by cases k <;> rfl
    subst hl
    refine .inr ⟨rows, rfl, ?_⟩
    rw [Option.map_some, Table.hiding, if_pos hname]
    rfl

theorem Database.Standing.catalogued (h : db.Standing) : db.Catalogued :=
  fun _ ht => h.layout_mem ht

/-! ## Selections -/

variable {first second : Database}

/-- Databases that differ in hidden values alone have tables of the catalog both or neither. -/
theorem catalogued_of_alike (h : first.Catalogued) (alike : first.hiding c = second.hiding c) :
    second.Catalogued := by
  intro t ht
  have hmem : Table.hiding c t ∈ (first.hiding c).tables := alike ▸ List.mem_map_of_mem ht
  obtain ⟨u, hu, heq⟩ := List.mem_map.1 hmem
  have hlayout : u.layout = t.layout := by
    have := congrArg Table.layout heq
    exact this
  exact hlayout ▸ h u hu

/-- The tables of a collection in databases that differ in its hidden values alone. -/
theorem tables_of_alike (h : first.Catalogued) (k : Kept c l)
    (alike : first.hiding c = second.hiding c) :
    first.readableTable c.name = .error .unavailable ∧
      second.readableTable c.name = .error .unavailable ∨
    ∃ rows rows', first.readableTable c.name = .ok ⟨l, rows⟩ ∧
      second.readableTable c.name = .ok ⟨l, rows'⟩ ∧
      rows.map (Row.hiding c.hidden) = rows'.map (Row.hiding c.hidden) := by
  have hfirst := readableTable_hiding h k
  have hsecond := readableTable_hiding (catalogued_of_alike h alike) k
  rw [alike] at hfirst
  rcases hfirst with ⟨hfirst, hnone⟩ | ⟨rows, hfirst, hhiding⟩ <;>
    rcases hsecond with ⟨hsecond, hnone'⟩ | ⟨rows', hsecond, hhiding'⟩
  · exact .inl ⟨hfirst, hsecond⟩
  · exact nomatch hnone.symm.trans hhiding'
  · exact nomatch hhiding.symm.trans hnone'
  · refine .inr ⟨rows, rows', hfirst, hsecond, ?_⟩
    exact congrArg Table.rows (Except.ok.inj (hhiding.symm.trans hhiding'))

/-- Rows that differ in hidden values alone pass the tests of compiled conditions alike. -/
theorem filter_alike (k : Kept c l) (hclauses : Condition.clauses? c conditions = some clauses)
    {tests : List Test} (htests : clauses.mapM (Test.ofClause l) = .ok tests) {rows rows' : List Row}
    (alike : rows.map (Row.hiding c.hidden) = rows'.map (Row.hiding c.hidden)) :
    (rows.filter fun row => tests.all (Test.holds l row)).map (Row.hiding c.hidden) =
      (rows'.filter fun row => tests.all (Test.holds l row)).map (Row.hiding c.hidden) := by
  have hfilter (rows : List Row) :
      (rows.filter fun row => tests.all (Test.holds l row)).map (Row.hiding c.hidden) =
        (rows.map (Row.hiding c.hidden)).filter fun row => tests.all (Test.holds l row) := by
    rw [List.filter_map]
    refine congrArg _ (List.filter_congr fun row _ => ?_)
    exact (holds_hiding k hclauses htests row).symm
  rw [hfilter, hfilter, alike]

/-- Counting does not depend on hidden values. -/
theorem counted_alike (h : first.Catalogued) (k : Kept c l)
    (alike : first.hiding c = second.hiding c) (conditions : List Condition) :
    first.counted c conditions = second.counted c conditions := by
  unfold Database.counted
  cases hclauses : Condition.clauses? c conditions with
  | none => rfl
  | some clauses =>
    dsimp only
    rcases tables_of_alike h k alike with ⟨hfirst, hsecond⟩ | ⟨rows, rows', hfirst, hsecond, hrows⟩
    · unfold Database.count
      rw [hfirst, hsecond]
    · have hdeclared : ∀ clause ∈ clauses, ∀ f, columnOf? clause = some f → f ∈ c.fieldNames :=
        fun clause hclause f hf => columnOf?_declared hclauses hclause hf
      rw [count_of_table hfirst k hdeclared, count_of_table hsecond k hdeclared]
      split
      next =>
        cases htests : clauses.mapM (Test.ofClause l) with
        | error fault => rfl
        | ok tests =>
          have := congrArg List.length (filter_alike k hclauses htests hrows)
          rw [List.length_map, List.length_map] at this
          exact congrArg Except.ok this
      next => rfl

/-- The window of rows that were changed one by one. -/
theorem window_map (f : Row → Row) (skip : Int) (limit : Option Int) (rows : List Row) :
    window skip limit (rows.map f) = (window skip limit rows).map f := by
  unfold window
  cases limit with
  | none => exact List.map_drop.symm
  | some n =>
    dsimp only
    split
    · exact List.map_drop.symm
    · rw [← List.map_drop, ← List.map_take]

theorem length_window_congr {rows rows' : List Row} (h : rows.length = rows'.length) (skip : Int)
    (limit : Option Int) : (window skip limit rows).length = (window skip limit rows').length := by
  unfold window
  cases limit with
  | none => simp only [List.length_drop, h]
  | some n =>
    dsimp only
    split <;> simp only [List.length_take, List.length_drop, h]

/-- Showing a window of rows does not depend on hidden values. -/
theorem shown_hiding (k : Kept c l) (projection : Option (List String)) (skip : Int)
    (limit : Option Int) (rows : List Row) :
    (window skip limit rows).map (recordOf c (l.shown (columns c projection false))) =
      (window skip limit (rows.map (Row.hiding c.hidden))).map
        (recordOf c (l.shown (columns c projection false))) := by
  rw [window_map, List.map_map]
  exact List.map_congr_left fun row _ => (recordOf_hiding k projection row).symm

section Alike

variable {rows rows' : List Row} (alike : rows.map (Row.hiding c.hidden) = rows'.map (Row.hiding c.hidden))
include alike

/-- Rows that differ in hidden values alone are sorted alike if no key is hidden. -/
theorem sorted_alike (k : Kept c l) {sort : List SortKey}
    (hsort : ∀ key ∈ sort, key.field ∉ c.hidden) :
    (sortRows (rowKeys c sort) rows).map (Row.hiding c.hidden) =
      (sortRows (rowKeys c sort) rows').map (Row.hiding c.hidden) := by
  rw [sortRows_hiding k hsort, sortRows_hiding k hsort, alike]

/-- Rows that differ in hidden values alone are the same without these in whatever order they are put. -/
theorem perm_alike (keys : List RowKey) :
    ((sortRows keys rows).map (Row.hiding c.hidden)).Perm
      ((sortRows keys rows').map (Row.hiding c.hidden)) := by
  have hrows := ((sortRows_perm keys rows).map (Row.hiding c.hidden))
  have hrows' := ((sortRows_perm keys rows').map (Row.hiding c.hidden))
  rw [alike] at hrows
  exact hrows.trans hrows'.symm

end Alike

/-- Selections from databases that differ in hidden values alone have the same outcome, or they show the
same window of the same rows, which are in the same order too if no key of the order is hidden. -/
theorem found_alike (h : first.Catalogued) (k : Kept c l)
    (alike : first.hiding c = second.hiding c) (s : Selection) (shows : s.includeHidden = false) :
    first.found c s = second.found c s ∨
    ∃ (skip : Int) (limit : Option Int) (rows rows' : List Row),
      rows.Perm rows' ∧ ((∀ key ∈ s.sort, key.field ∉ c.hidden) → rows = rows') ∧
      first.found c s = .ok ((window skip limit rows).map
        (recordOf c (l.shown (columns c s.projection false)))) ∧
      second.found c s = .ok ((window skip limit rows').map
        (recordOf c (l.shown (columns c s.projection false)))) := by
  unfold Database.found
  cases hclauses : Condition.clauses? c s.conditions with
  | none => exact .inl rfl
  | some clauses =>
    dsimp only
    rcases tables_of_alike h k alike with ⟨hfirst, hsecond⟩ | ⟨rows, rows', hfirst, hsecond, hrows⟩
    · left
      unfold Database.select
      rw [hfirst, hsecond]
    · have hdeclared : ∀ clause ∈ clauses, ∀ f, columnOf? clause = some f → f ∈ c.fieldNames :=
        fun clause hclause f hf => columnOf?_declared hclauses hclause hf
      rw [select_of_table hfirst k hdeclared, select_of_table hsecond k hdeclared, selected, selected,
        shows]
      split
      next =>
        cases htests : clauses.mapM (Test.ofClause l) with
        | error fault => exact .inl rfl
        | ok tests =>
          cases bindWindow s.skip s.limit with
          | error fault => exact .inl rfl
          | ok bounds =>
            have hpassing := filter_alike k hclauses htests hrows
            refine .inr ⟨bounds.1, bounds.2, _, _, perm_alike hpassing (rowKeys c s.sort),
              fun hsort => sorted_alike hpassing k hsort, ?_, ?_⟩
            · rw [← shown_hiding k]
              rfl
            · rw [← shown_hiding k]
              rfl
      next => exact .inl rfl

end SchoolCatalog.Store
