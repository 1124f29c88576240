import Mathlib.Data.List.Find
import SchoolCatalog.Proofs.Store.Writing
import SchoolCatalog.Proofs.Service.Run

/-!
# Finding records in a sound database

What a selection over a collection of the catalog finds. Its statement names declared fields only, so
nothing but its bounds can be wrong with it; and rows stand in the order of their identities, so that
without an order of its own a selection finds them as they stand. A condition on a key, which is the
identity or a column that names another row, is met by the rows whose key is the identity that the
value stands for.

Results:
1. `select_of_table`, `select_eq`: a selection as the rows that pass its tests, in order, in a window.
2. `found_by_key`: the records that are found by a key.
3. `record?_of_denotes`, `of_record?_some`: the record with an identity is found if it is there.
-/

namespace SchoolCatalog.Store

variable {db : Database} {c : Collection} {l : Layout} {s : Selection} {clauses : List Clause}

/-! ## Statements of selections -/

/-- A clause names the field of its condition, if that may be looked at, or none. -/
theorem columnOf?_clause? {cond : Condition} {clause : Clause} (h : cond.clause? c = some clause)
    {f : String} (hf : columnOf? clause = some f) : c.isQueryable f = true := by
  have hquery : (if c.isQueryable cond.field then some cond.field else none) = some f →
      c.isQueryable f = true := by
    intro hsome
    split at hsome
    next hqueryable =>
      obtain rfl := Option.some.inj hsome
      exact hqueryable
    next => exact nomatch hsome
  rcases cond with ⟨field, operator, value⟩
  cases operator with
  | oneOf =>
    -- an empty list of candidates is compiled without a column
    obtain ⟨candidates, _, hcandidates⟩ := Option.map_eq_some_iff.1 h
    split at hcandidates
    · rw [← hcandidates] at hf
      exact nomatch hf
    · rw [← hcandidates] at hf
      exact hquery hf
  | _ =>
    rw [← Option.some.inj h] at hf
    exact hquery hf

theorem clauses?_cons {cond : Condition} {conditions : List Condition} :
    Condition.clauses? c (cond :: conditions) = some clauses ↔ ∃ clause rest,
      cond.clause? c = some clause ∧ Condition.clauses? c conditions = some rest ∧
      clauses = clause :: rest := by
  rw [Condition.clauses?, List.mapM_cons]
  constructor
  · intro h
    obtain ⟨clause, hclause, h⟩ := Option.bind_eq_some_iff.1 h
    obtain ⟨rest, hrest, h⟩ := Option.bind_eq_some_iff.1 h
    exact ⟨clause, rest, hclause, hrest, (Option.some.inj h).symm⟩
  · rintro ⟨clause, rest, hclause, hrest, rfl⟩
    rw [Condition.clauses?] at hrest
    rw [hclause, hrest]
    rfl

/-- Compiled conditions name no field but one that may be looked at. -/
theorem columnOf?_queryable {conditions : List Condition}
    (h : Condition.clauses? c conditions = some clauses) {clause : Clause}
    (hclause : clause ∈ clauses) {f : String} (hf : columnOf? clause = some f) :
    c.isQueryable f = true := by
  induction conditions generalizing clauses with
  | nil =>
    cases h
    exact nomatch hclause
  | cons cond rest ih =>
    obtain ⟨head, tail, hhead, htail, rfl⟩ := clauses?_cons.1 h
    rcases List.mem_cons.1 hclause with rfl | hclause
    · exact columnOf?_clause? hhead hf
    · exact ih htail hclause

theorem columnOf?_declared {conditions : List Condition}
    (h : Condition.clauses? c conditions = some clauses) {clause : Clause}
    (hclause : clause ∈ clauses) {f : String} (hf : columnOf? clause = some f) :
    f ∈ c.fieldNames :=
  hasField_iff.1 (Bool.and_eq_true_iff.1 (columnOf?_queryable h hclause hf)).1

/-- The keys of an order are declared, and there is one. -/
theorem orderKeys_declared (k : Kept c l) {key : SortKey} (hkey : key ∈ c.orderKeys s.sort) :
    key.field ∈ c.fieldNames := by
  rcases List.mem_append.1 hkey with hkey | hkey
  · exact hasField_iff.1 (List.mem_filter.1 hkey).2
  · split at hkey
    · exact nomatch hkey
    · rw [List.mem_singleton.1 hkey, k.fieldNames_eq]
      exact List.mem_cons_self ..

theorem orderKeys_ne_nil (k : Kept c l) (sort : List SortKey) :
    (c.orderKeys sort).isEmpty = false := by
  have hid : c.hasField "id" = true := by
    rw [hasField_iff, k.fieldNames_eq]
    exact List.mem_cons_self ..
  rw [List.isEmpty_eq_false_iff, Collection.orderKeys]
  cases hany : sort.any fun key => key.field = "id" with
  | false => simp
  | true =>
    obtain ⟨key, hkey, hname⟩ := List.any_eq_true.1 hany
    have hname : key.field = "id" := by simpa using hname
    have hmem : key ∈ sort.filter fun key => c.hasField key.field :=
      List.mem_filter.2 ⟨hkey, by rw [hname]; exact hid⟩
    intro hnil
    rw [(List.append_eq_nil_iff.1 hnil).1] at hmem
    exact nomatch hmem

theorem resolved_orderKeys (k : Kept c l) (sort : List SortKey) :
    (c.orderKeys sort).map (RowKey.ofSortKey l) =
      (c.orderKeys sort).map fun key => ⟨fieldReference key.field, key.descending⟩ := by
  refine List.map_congr_left fun key hkey => ?_
  rw [RowKey.ofSortKey, k.resolve_field (orderKeys_declared (s := { sort }) k hkey)]

/-- The keys of an order over a collection of the catalog. -/
def rowKeys (c : Collection) (sort : List SortKey) : List RowKey :=
  (c.orderKeys sort).map fun key => ⟨fieldReference key.field, key.descending⟩

/-- What a selection answers from the rows of a table. -/
def selected (c : Collection) (l : Layout) (rows : List Row) (clauses : List Clause)
    (s : Selection) : Except Failure (List Record) :=
  if (s.statement c clauses).keepsBounds then do
    let tests ← clauses.mapM (Test.ofClause l)
    let bounds ← bindWindow s.skip s.limit
    .ok ((window bounds.1 bounds.2 (sortRows (rowKeys c s.sort)
      (rows.filter fun row => tests.all (Test.holds l row)))).map
        (recordOf c (l.shown (columns c s.projection s.includeHidden))))
  else .error .unavailable

/-- A selection as the rows of its table that pass its tests, in order, in a window. -/
theorem select_of_table {rows : List Row} (htable : db.readableTable c.name = .ok ⟨l, rows⟩)
    (k : Kept c l)
    (hclauses : ∀ clause ∈ clauses, ∀ f, columnOf? clause = some f → f ∈ c.fieldNames) :
    db.select c clauses s = selected c l rows clauses s := by
  obtain ⟨_, hid, hdeclared⟩ := columns_spec k s.projection s.includeHidden
  -- a statement names the columns that it shows, those of its conditions, and its keys
  have hcheck : (s.statement c clauses).check =
      if (s.statement c clauses).keepsBounds then .ok () else .error .unavailable := by
    refine check_of_declared k rfl fun f hf => ?_
    rcases List.mem_append.1 hf with hf | hf
    · rcases List.mem_append.1 hf with hf | hf
      · exact hdeclared f hf
      · obtain ⟨clause, hclause, hcolumn⟩ := List.mem_filterMap.1 hf
        exact hclauses clause hclause f hcolumn
    · obtain ⟨key, hkey, rfl⟩ := List.mem_map.1 hf
      exact orderKeys_declared (s := s) k hkey
  have hshown : ((s.statement c clauses).columns.isEmpty || (s.statement c clauses).order.isEmpty) =
      false := by
    have hcolumns : (columns c s.projection s.includeHidden).isEmpty = false := by
      rw [List.isEmpty_eq_false_iff]
      exact List.ne_nil_of_mem hid
    show ((columns c s.projection s.includeHidden).isEmpty || (c.orderKeys s.sort).isEmpty) = false
    rw [hcolumns, orderKeys_ne_nil k s.sort, Bool.false_or]
  unfold Database.select selected
  dsimp only
  rw [hcheck, hshown]
  split
  next =>
    rw [htable, rowKeys, ← resolved_orderKeys k]
    rfl
  next => rfl

theorem select_eq (h : db.Standing) (k : Kept c l)
    (hclauses : ∀ clause ∈ clauses, ∀ f, columnOf? clause = some f → f ∈ c.fieldNames) :
    db.select c clauses s = selected c l (db.rows l.name) clauses s :=
  select_of_table (h.readableTable_eq k) k hclauses

/-! ## Without an order -/

/-- Rows that stand in the order of their identities are sorted already if no order is asked for. -/
theorem sortRows_ordered {rows : List Row} (h : rows.Pairwise (·.id < ·.id)) :
    sortRows (rowKeys c []) rows = rows := by
  refine List.mergeSort_of_pairwise (h.imp fun {x y} hlt => ?_)
  show decide ((Ord.compare x.id y.id).then .eq ≠ .gt) = true
  rw [Ordering.then_eq, decide_eq_true_iff]
  exact Int.compare_ne_gt.2 (Int.le_of_lt hlt)

/-- Where all rows are wanted from the first on, the window is no bound. -/
theorem bindWindow_none : bindWindow 0 none = .ok (0, none) := rfl

theorem bindWindow_one : bindWindow 0 (some 1) = .ok (0, some 1) := rfl

/-! ## Keys -/

/-- A field whose values are identities: the identity itself, or a column that names another row. -/
def IsKey (c : Collection) (l : Layout) (f : String) : Prop :=
  f ∈ c.visibleFields ∧ (f = "id" ∨ ∃ parent, (f, parent) ∈ l.parents)

/-- What a key holds is an identity. -/
theorem read_key (h : db.Sound) (k : Kept c l) {f : String} (hf : IsKey c l f) {row : Row}
    (hrow : row ∈ db.rows l.name) :
    ∃ i, row.read (fieldReference f) = .int i ∧ Cell.IsIdentity i := by
  rcases hf.2 with rfl | ⟨parent, hlink⟩
  · exact ⟨row.id, rfl, h.isIdentity k.mem_standard hrow⟩
  · obtain ⟨p, hp, hcell⟩ := h.named l k.mem_standard _ hlink row hrow
    obtain ⟨layout, hlayout, hname⟩ := List.mem_map.1 (parent_standard k.mem_standard hlink)
    obtain ⟨col, hcol, hcolumn, _⟩ := link_column k.mem_standard hlink
    obtain rfl : col.name = f := hcolumn
    refine ⟨p.id, ?_, h.isIdentity hlayout (hname ▸ hp)⟩
    rw [k.fieldReference_column hcol]
    exact hcell

theorem kind_key (k : Kept c l) {f : String} (hf : IsKey c l f) : c.kind? f = some .integer := by
  have hid : c.kind? "id" = some .integer := by cases k <;> rfl
  have hlinks : ∀ link ∈ l.parents, c.kind? link.1 = some .integer := by
    cases k <;> decide
  rcases hf.2 with rfl | ⟨parent, hlink⟩
  · exact hid
  · exact hlinks _ hlink

theorem affinity_key (k : Kept c l) {f : String} (hf : IsKey c l f) :
    l.affinity (fieldReference f) = .integer := by
  have hall : ∀ link ∈ l.parents, l.affinity (fieldReference link.1) = .integer := by
    cases k <;> decide
  rcases hf.2 with rfl | ⟨parent, hlink⟩
  · rfl
  · exact hall _ hlink

/-- A row meets a condition on a key if the value stands for the identity that it holds. -/
theorem holds_key (h : db.Sound) (k : Kept c l) {f : String} (hf : IsKey c l f) {d : Datum}
    {v : Cell} (hv : Cell.bind d = .ok v) {row : Row} (hrow : row ∈ db.rows l.name) :
    Test.holds l row (.compares (some (fieldReference f)) .equal v) = true ↔
      ∃ i, row.read (fieldReference f) = .int i ∧ d.Denotes i := by
  obtain ⟨i, hread, hi⟩ := read_key h k hf hrow
  have hproper := Cell.bind_proper hv
  have horder : order? l row (some (fieldReference f)) v =
      if v.isNull then none else some ((Cell.int i).compare (Affinity.integer.adapt v)) := by
    rw [order?, hread, affinity_key k hf]
    rfl
  have hdenotes : d.Denotes i ↔ Affinity.integer.adapt v = .int i := by
    constructor
    · rintro ⟨v', hv', hadapt⟩
      cases hv.symm.trans hv'
      exact hadapt
    · exact fun hadapt => ⟨v, hv, hadapt⟩
  have hiff : Test.holds l row (.compares (some (fieldReference f)) .equal v) = true ↔
      d.Denotes i := by
    rw [Test.holds, horder, hdenotes, ← Affinity.compare_adapt hproper hi]
    cases v with
    | null =>
      refine ⟨fun hfalse => (nomatch hfalse), fun hcompare => ?_⟩
      exact nomatch (show Ordering.gt = .eq from hcompare)
    | int j => simp [Cell.isNull, Relation.holds]
    | real x => simp [Cell.isNull, Relation.holds]
    | text t => simp [Cell.isNull, Relation.holds]
    | blob b => simp [Cell.isNull, Relation.holds]
  rw [hiff]
  constructor
  · exact fun hd => ⟨i, hread, hd⟩
  · rintro ⟨j, hj, hd⟩
    cases hread.symm.trans hj
    exact hd

/-- The condition that a key holds the identity that a value stands for. -/
def byKey (f : String) (d : Datum) : Condition := ⟨f, .eq, d⟩

/-- The rows that a key with a bound value finds. -/
def keyed (l : Layout) (f : String) (v : Cell) (row : Row) : Bool :=
  Test.holds l row (.compares (some (fieldReference f)) .equal v)

theorem columns_length (k : Kept c l) (projection : Option (List String)) (includeHidden : Bool) :
    (columns c projection includeHidden).length ≤ 20 := by
  obtain ⟨hnodup, _, hdeclared⟩ := columns_spec k projection includeHidden
  exact Nat.le_trans (hnodup.length_le_of_subset fun f hf => hdeclared f hf) k.fieldNames_length

theorem keepsBounds_iff {s : Statement} :
    s.keepsBounds = true ↔ s.columns.length ≤ Statement.greatestWidth ∧
      s.order.length ≤ Statement.greatestWidth ∧ canJoin s.clauses = true ∧
      (s.clauses.map fun clause => clause.parameters.length).foldl (· + ·) s.window ≤
        Statement.greatestParameters := by
  simp only [Statement.keepsBounds, Bool.and_eq_true, decide_eq_true_eq, and_assoc]

theorem windowParameters_le (s : Selection) : s.windowParameters ≤ 2 := by
  unfold Selection.windowParameters
  split
  · exact Nat.le_refl 2
  · split <;> omega

theorem depth_ofClause (clause : Clause) : (Nesting.ofClause clause).depth ≤ 3 := by
  cases clause with
  | never => exact (by decide : 1 ≤ 3)
  | differs column value => exact (by decide : 3 ≤ 3)
  | compares column relation value => exact (by decide : 2 ≤ 3)
  | among column candidates =>
    show (if candidates.length = 1 then 3 else 2) ≤ 3
    split <;> decide

/-- A selection with one condition keeps within bounds if its order and its parameters do. -/
theorem keepsBounds_one (k : Kept c l) {clause : Clause}
    (horder : (c.orderKeys s.sort).length ≤ Statement.greatestWidth)
    (hparameters : s.windowParameters + clause.parameters.length ≤ Statement.greatestParameters) :
    (s.statement c [clause]).keepsBounds = true := by
  refine keepsBounds_iff.2 ⟨?_, horder, ?_, hparameters⟩
  · exact Nat.le_trans (columns_length k s.projection s.includeHidden) (by decide)
  · exact decide_eq_true (Nat.le_trans (depth_ofClause clause) (by decide))

/-- The records that are found by the value of a field, in a window that leaves out nothing but the end;
a value that cannot be bound finds none. -/
theorem found_by_field (h : db.Sound) (k : Kept c l) {f : String} (hf : f ∈ c.visibleFields) (d : Datum)
    (projection : Option (List String)) (includeHidden : Bool) {limit : Option Int}
    (hlimit : bindWindow 0 limit = .ok (0, limit)) :
    db.found c { conditions := [byKey f d], projection, limit, includeHidden } =
      (Cell.bind d).map fun v => (window 0 limit ((db.rows l.name).filter (keyed l f v))).map
        (recordOf c (l.shown (columns c projection includeHidden))) := by
  have hclauses : Condition.clauses? c [byKey f d] = some [.compares (some f) .equal d] := by
    have hclause : Condition.clause? c (byKey f d) = some (.compares (some f) .equal d) := by
      rw [Condition.clause?, byKey]
      dsimp only
      rw [if_pos (isQueryable_of_visible hf)]
    rw [Condition.clauses?, List.mapM_cons, hclause]
    rfl
  have hdeclared : ∀ clause ∈ [Clause.compares (some f) .equal d],
      ∀ g, columnOf? clause = some g → g ∈ c.fieldNames :=
    fun clause hclause g hg => columnOf?_declared hclauses hclause hg
  have hbounds (s : Selection) (hsort : s.sort = []) :
      (s.statement c [.compares (some f) .equal d]).keepsBounds = true := by
    refine keepsBounds_one k ?_ ?_
    · rw [hsort]
      exact (by decide : 1 ≤ 2000)
    · exact Nat.le_trans (Nat.add_le_add_right (windowParameters_le s) 1) (by decide)
  rw [Database.found, hclauses]
  dsimp only
  rw [select_eq h.standing k hdeclared, selected, if_pos (hbounds _ rfl), List.mapM_cons, Test.ofClause,
    Option.map_some, k.resolve_field (visible_subset hf)]
  cases Cell.bind d with
  | error fault => rfl
  | ok v =>
    have hrows : ((db.rows l.name).filter fun row =>
        [Test.compares (some (fieldReference f)) .equal v].all (Test.holds l row)) =
          (db.rows l.name).filter (keyed l f v) := by
      refine List.filter_congr fun row _ => ?_
      rw [List.all_cons, List.all_nil, Bool.and_true]
      rfl
    show (bindWindow 0 limit >>= _) = _
    rw [hlimit]
    show Except.ok (List.map _ (window 0 limit (sortRows (rowKeys c [])
      ((db.rows l.name).filter fun row =>
        [Test.compares (some (fieldReference f)) .equal v].all (Test.holds l row))))) = _
    rw [hrows, sortRows_ordered ((h.ordered l k.mem_standard).filter _)]
    rfl

theorem found_by_key (h : db.Sound) (k : Kept c l) {f : String} (hf : IsKey c l f) (d : Datum)
    (projection : Option (List String)) {limit : Option Int}
    (hlimit : bindWindow 0 limit = .ok (0, limit)) :
    db.found c { conditions := [byKey f d], projection, limit } =
      (Cell.bind d).map fun v => (window 0 limit ((db.rows l.name).filter (keyed l f v))).map
        (recordOf c (l.shown (columns c projection false))) :=
  found_by_field h k hf.1 d projection false hlimit

/-- A row that is found by a text holds it. -/
theorem cell_of_keyed {f s : String} (hf : f ≠ "id") (haffinity : l.affinity (fieldReference f) = .text)
    {row : Row} (hkeyed : keyed l f (.text s) row = true) : row.cell f = .text s := by
  have horder : order? l row (some (fieldReference f)) (.text s) =
      if (row.cell f).isNull then none else some ((row.cell f).compare (.text s)) := by
    have hread : row.read (fieldReference f) = row.cell f := by
      rw [fieldReference, if_neg hf]
      rfl
    rw [order?, hread, haffinity, show (Cell.text s).isNull = false from rfl, Bool.or_false]
    rfl
  rw [keyed, Test.holds, horder] at hkeyed
  cases hcell : row.cell f with
  | null => rw [hcell] at hkeyed; cases hkeyed
  | int i => rw [hcell] at hkeyed; cases hkeyed
  | real x => rw [hcell] at hkeyed; cases hkeyed
  | blob b => rw [hcell] at hkeyed; cases hkeyed
  | text t =>
    rw [hcell] at hkeyed
    have hsame : Ord.compare t s = .eq := by
      simpa [Cell.isNull, Cell.compare, Cell.rank, Relation.holds] using hkeyed
    rw [Std.LawfulEqOrd.eq_of_compare hsame]

/-! ## Records by identity -/

theorem isKey_id (k : Kept c l) : IsKey c l "id" := ⟨k.id_mem_visible, .inl rfl⟩

theorem keyed_id (h : db.Sound) (k : Kept c l) {d : Datum} {v : Cell} (hv : Cell.bind d = .ok v)
    {row : Row} (hrow : row ∈ db.rows l.name) :
    keyed l "id" v row = true ↔ d.Denotes row.id := by
  rw [keyed, holds_key h k (isKey_id k) hv hrow]
  constructor
  · rintro ⟨i, hread, hd⟩
    cases hread
    exact hd
  · exact fun hd => ⟨row.id, rfl, hd⟩

theorem record?_eq (h : db.Sound) (k : Kept c l) (id : Datum) (projection : Option (List String)) :
    db.record? c id projection = (Cell.bind id).map fun v =>
      ((db.rows l.name).find? (keyed l "id" v)).map
        (recordOf c (l.shown (columns c projection false))) := by
  rw [Database.record?]
  show Except.map _ (db.found c { conditions := [byKey "id" id], projection, limit := some 1 }) = _
  rw [found_by_key h k (isKey_id k) id projection bindWindow_one]
  cases Cell.bind id with
  | error fault => rfl
  | ok v =>
    show Except.ok (List.head? (List.map _ (List.take 1 (List.drop 0 _)))) = _
    rw [List.drop_zero, List.head?_map, List.head?_take, if_neg (by decide), List.head?_filter]
    rfl

/-- The record of a row is found by a value that stands for its identity. -/
theorem record?_of_denotes (h : db.Sound) (k : Kept c l) {id : Datum} {row : Row}
    (hrow : row ∈ db.rows l.name) (hid : id.Denotes row.id) (projection : Option (List String)) :
    db.record? c id projection =
      .ok (some (recordOf c (l.shown (columns c projection false)) row)) := by
  obtain ⟨v, hv, hadapt⟩ := hid
  have hfind : (db.rows l.name).find? (keyed l "id" v) = some row := by
    refine find?_eq_some_of_unique hrow ((keyed_id h k hv hrow).2 ⟨v, hv, hadapt⟩) fun r hr hkeyed => ?_
    exact h.eq_of_id k.mem_standard hr hrow
      (((keyed_id h k hv hr).1 hkeyed).unique ⟨v, hv, hadapt⟩)
  rw [record?_eq h k, hv]
  show Except.ok (Option.map _ ((db.rows l.name).find? (keyed l "id" v))) = _
  rw [hfind]
  rfl

/-- A record that is found by identity is that of the row with the identity. -/
theorem of_record?_some (h : db.Sound) (k : Kept c l) {id : Datum} {projection : Option (List String)}
    {record : Record} (hrecord : db.record? c id projection = .ok (some record)) :
    ∃ row ∈ db.rows l.name, id.Denotes row.id ∧
      record = recordOf c (l.shown (columns c projection false)) row := by
  rw [record?_eq h k] at hrecord
  cases hv : Cell.bind id with
  | error fault => rw [hv] at hrecord; exact nomatch hrecord
  | ok v =>
    rw [hv] at hrecord
    obtain ⟨row, hfind, hrow⟩ := Option.map_eq_some_iff.1 (Except.ok.inj hrecord)
    have hmem := List.mem_of_find?_eq_some hfind
    exact ⟨row, hmem, (keyed_id h k hv hmem).1 (List.find?_some hfind), hrow.symm⟩

/-- An identity finds the record of the row that has it, if there is one. -/
theorem record?_of_int (h : db.Sound) (k : Kept c l) {i : Int} (hi : (Cell.int i).Proper)
    (projection : Option (List String)) : db.record? c (.int i) projection =
      .ok (((db.rows l.name).find? (·.id = i)).map
        (recordOf c (l.shown (columns c projection false)))) := by
  have hbind : Cell.bind (.int i) = .ok (.int i) := if_pos hi
  have hfind : (db.rows l.name).find? (keyed l "id" (.int i)) =
      (db.rows l.name).find? (·.id = i) := by
    refine List.find?_congr fun row hrow => ?_
    rw [Bool.eq_iff_iff, keyed_id h k hbind hrow, decide_eq_true_eq]
    exact ⟨fun hdenotes => hdenotes.eq_of_int.symm, fun hid => hid.symm ▸ Datum.denotes_int hi⟩
  rw [record?_eq h k, hbind]
  show Except.ok (Option.map _ ((db.rows l.name).find? (keyed l "id" (.int i)))) = _
  rw [hfind]

end SchoolCatalog.Store
