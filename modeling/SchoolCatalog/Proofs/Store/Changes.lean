import SchoolCatalog.Proofs.Store.Sound

/-!
# Changes of a database

The three ways in which writing changes a sound database: a table grows by a row with a new identity,
the cells of one row change, or rows are taken out of all tables. Each says what the rows are
afterwards and keeps the database sound, as long as the rows that it adds or changes keep the rules and
no row stays that names one taken out.

Results:
1. `Wrote.unique`, `Wrote.named`: the rules between rows that writing one row keeps.
2. `Sound.grown`, `Sound.amended`, `Sound.pruned`: the invariant is kept.
3. `rows_grown`, `rows_amended`, `rows_pruned`: what the rows are afterwards.
-/

namespace SchoolCatalog.Store

variable {db : Database} {l m : Layout}

/-! ## Columns by name -/

theorem unique_declared (hl : l ∈ Layout.standard) {columns : List String}
    (hcolumns : columns ∈ l.unique) {c : String} (hc : c ∈ columns) :
    c ∈ l.columns.map (·.name) := by
  revert l columns c
  decide

theorem parent_standard (hl : l ∈ Layout.standard) {link : String × String}
    (hlink : link ∈ l.parents) : link.2 ∈ Layout.standard.map (·.name) := by
  revert l link
  decide

namespace Database

/-! ## Identities handed out -/

theorem greatestHandedOut_handOut (db : Database) (name : String) (id : Int) (other : String) :
    (db.handOut name id).greatestHandedOut other =
      if other = name then max id (db.greatestHandedOut name) else db.greatestHandedOut other := by
  unfold greatestHandedOut
  rw [handOut]
  dsimp only [greatestHandedOut]
  split
  next hsome =>
    rw [lookup_map_values fun n greatest =>
      if n = name then max id ((db.handedOut.lookup name).getD 0) else greatest]
    by_cases h : other = name
    · obtain ⟨greatest, hgreatest⟩ := Option.isSome_iff_exists.1 hsome
      rw [h, hgreatest, if_pos rfl, Option.map_some, if_pos rfl, Option.getD_some]
    · cases db.handedOut.lookup other <;> simp [h]
  next hnone =>
    rw [List.lookup_append]
    by_cases h : other = name
    · rw [Option.not_isSome_iff_eq_none] at hnone
      rw [h, hnone, if_pos rfl, Option.none_or, List.lookup_cons_self, Option.getD_some]
    · rw [if_neg h, List.lookup_cons, beq_false_of_ne h, List.lookup_nil, Option.or_none]

@[simp] theorem rows_handOut (db : Database) (name : String) (id : Int) (other : String) :
    (db.handOut name id).rows other = db.rows other := rfl

@[simp] theorem greatestHandedOut_setTable (db : Database) (t : Table) (name : String) :
    (db.setTable t).greatestHandedOut name = db.greatestHandedOut name := rfl

/-! ## Writing one row -/

/-- What writing a row makes of a database: the other rows were there with other identities, and no
identity is lost. -/
structure Wrote (db after : Database) (l : Layout) (row : Row) : Prop where
  mem : ∀ m ∈ Layout.standard, ∀ r ∈ after.rows m.name,
    (r ∈ db.rows m.name ∧ (m = l → r.id ≠ row.id)) ∨ m = l ∧ r = row
  stays : ∀ m ∈ Layout.standard, ∀ r ∈ db.rows m.name, ∃ s ∈ after.rows m.name, s.id = r.id

namespace Wrote

variable {after : Database} {row : Row}

theorem fits (h : db.Sound) (w : Wrote db after l row) (hfits : row.Fits l) :
    ∀ m ∈ Layout.standard, ∀ r ∈ after.rows m.name, r.Fits m := by
  intro m hm r hr
  rcases w.mem m hm r hr with ⟨hr, _⟩ | ⟨rfl, rfl⟩
  · exact h.fits m hm r hr
  · exact hfits

/-- Two rows do not agree if neither is the one written, and the one written agrees with none. -/
theorem unique (h : db.Sound) (w : Wrote db after l row) (hfits : row.Fits l)
    (hunique : ∀ columns ∈ l.unique, ∀ other ∈ db.rows l.name, other.id ≠ row.id →
      ¬ row.Agrees columns other) :
    ∀ m ∈ Layout.standard, ∀ columns ∈ m.unique, ∀ r ∈ after.rows m.name, ∀ s ∈ after.rows m.name,
      r.id ≠ s.id → ¬ r.Agrees columns s := by
  intro m hm columns hcolumns r hr s hs hne
  rcases w.mem m hm r hr with ⟨hr, hrne⟩ | ⟨rfl, rfl⟩
  · rcases w.mem m hm s hs with ⟨hs, _⟩ | ⟨rfl, rfl⟩
    · exact h.unique m hm columns hcolumns r hr s hs hne
    · intro hagree
      refine hunique columns hcolumns r hr (hrne rfl) ?_
      exact hagree.symm (h.fits m hm r hr) hfits fun c hc => unique_declared hm hcolumns hc
  · rcases w.mem m hm s hs with ⟨hs, hsne⟩ | ⟨_, rfl⟩
    · exact hunique columns hcolumns s hs (hsne rfl)
    · exact absurd rfl hne

/-- A row that names another one still does, as that keeps its identity. -/
theorem named (h : db.Sound) (w : Wrote db after l row)
    (hnamed : ∀ link ∈ l.parents, ∃ p ∈ db.rows link.2, row.cell link.1 = .int p.id) :
    ∀ m ∈ Layout.standard, ∀ link ∈ m.parents, ∀ r ∈ after.rows m.name,
      ∃ p ∈ after.rows link.2, r.cell link.1 = .int p.id := by
  intro m hm link hlink r hr
  obtain ⟨parent, hparent, hname⟩ := List.mem_map.1 (parent_standard hm hlink)
  have hbefore : ∃ p ∈ db.rows link.2, r.cell link.1 = .int p.id := by
    rcases w.mem m hm r hr with ⟨hr, _⟩ | ⟨rfl, rfl⟩
    · exact h.named m hm link hlink r hr
    · exact hnamed link hlink
  obtain ⟨p, hp, hcell⟩ := hbefore
  rw [← hname] at hp ⊢
  obtain ⟨q, hq, hid⟩ := w.stays parent hparent p hp
  exact ⟨q, hq, by rw [hid]; exact hcell⟩

end Wrote

/-! ## Growing -/

/-- A database with one row more, whose identity is handed out. -/
def grown (db : Database) (l : Layout) (row : Row) : Database :=
  (db.setTable ⟨l, db.rows l.name ++ [row]⟩).handOut l.name row.id

theorem rows_grown (h : db.Sound) (hl : l ∈ Layout.standard) (row : Row) (hm : m ∈ Layout.standard) :
    (db.grown l row).rows m.name =
      if m.name = l.name then db.rows l.name ++ [row] else db.rows m.name := by
  rw [grown, rows_handOut, h.standing.rows_setTable hl _ hm]

theorem mem_rows_grown (h : db.Sound) (hl : l ∈ Layout.standard) (row : Row)
    (hm : m ∈ Layout.standard) {r : Row} (hr : r ∈ db.rows m.name) :
    r ∈ (db.grown l row).rows m.name := by
  rw [rows_grown h hl row hm]
  split
  next hname => exact List.mem_append_left _ (hname ▸ hr)
  next => exact hr

/-- A row of the grown table is the new one or was there. -/
theorem mem_grown (h : db.Sound) (hl : l ∈ Layout.standard) {row : Row} (hm : m ∈ Layout.standard)
    {r : Row} (hr : r ∈ (db.grown l row).rows m.name) :
    r ∈ db.rows m.name ∨ m = l ∧ r = row := by
  rw [rows_grown h hl row hm] at hr
  split at hr
  next hname =>
    obtain rfl := eq_of_name_eq hm hl hname
    rcases List.mem_append.1 hr with hr | hr
    · exact .inl hr
    · exact .inr ⟨rfl, List.mem_singleton.1 hr⟩
  next => exact .inl hr

theorem wrote_grown (h : db.Sound) (hl : l ∈ Layout.standard) {row : Row}
    (hnew : ∀ r ∈ db.rows l.name, r.id < row.id) : Wrote db (db.grown l row) l row where
  mem m hm r hr := by
    rcases mem_grown h hl hm hr with hold | hwritten
    · refine .inl ⟨hold, ?_⟩
      rintro rfl
      exact Int.ne_of_lt (hnew r hold)
    · exact .inr hwritten
  stays m hm r hr := ⟨r, mem_rows_grown h hl row hm hr, rfl⟩

theorem greatestHandedOut_grown {row : Row} (hnext : db.greatestHandedOut l.name ≤ row.id)
    (name : String) : (db.grown l row).greatestHandedOut name =
      if name = l.name then row.id else db.greatestHandedOut name := by
  rw [Database.grown, greatestHandedOut_handOut, greatestHandedOut_setTable, greatestHandedOut_setTable]
  split
  next => exact Int.max_eq_left hnext
  next => rfl

/-- A new row with the next identity keeps a database sound if it keeps the rules. -/
theorem Sound.grown (h : db.Sound) (hl : l ∈ Layout.standard) {row : Row}
    (hid : row.id = db.greatestHandedOut l.name + 1) (hmost : row.id ≤ Number.greatestWord)
    (hfits : row.Fits l)
    (hunique : ∀ columns ∈ l.unique, ∀ other ∈ db.rows l.name, ¬ row.Agrees columns other)
    (hnamed : ∀ link ∈ l.parents, ∃ p ∈ db.rows link.2, row.cell link.1 = .int p.id) :
    (db.grown l row).Sound := by
  have hgreatest := greatestHandedOut_grown (show db.greatestHandedOut l.name ≤ row.id by omega)
  -- identities are handed out in ascending order, so that the new row comes last
  have hnew : ∀ r ∈ db.rows l.name, r.id < row.id := fun r hr => by
    have := (h.numbered l hl r hr).2
    omega
  have hpositive := (h.bounded l hl).1
  have w := wrote_grown h hl hnew
  constructor
  case standing => exact h.standing.setTable hl _
  case fits => exact w.fits h hfits
  case ordered =>
    intro m hm
    rw [rows_grown h hl row hm]
    split
    next =>
      refine List.pairwise_append.2 ⟨h.ordered l hl, List.pairwise_singleton .., ?_⟩
      intro r hr s hs
      rw [List.mem_singleton.1 hs]
      exact hnew r hr
    next => exact h.ordered m hm
  case numbered =>
    intro m hm r hr
    rw [hgreatest]
    rcases mem_grown h hl hm hr with hr | ⟨rfl, rfl⟩
    · have := h.numbered m hm r hr
      split
      next hname =>
        rw [hname] at this
        omega
      next => exact this
    · rw [if_pos rfl]
      omega
  case bounded =>
    intro m hm
    rw [hgreatest]
    split
    next => omega
    next => exact h.bounded m hm
  case unique =>
    exact w.unique h hfits fun columns hcolumns other hother _ => hunique columns hcolumns other hother
  case named => exact w.named h hnamed

/-! ## Changing one row -/

/-- A database in which the row with an identity has become another one. -/
def amended (db : Database) (l : Layout) (row : Row) : Database :=
  db.setTable ⟨l, (db.rows l.name).map fun r => if r.id = row.id then row else r⟩

theorem rows_amended (h : db.Sound) (hl : l ∈ Layout.standard) (row : Row)
    (hm : m ∈ Layout.standard) :
    (db.amended l row).rows m.name =
      if m.name = l.name then (db.rows l.name).map fun r => if r.id = row.id then row else r
      else db.rows m.name :=
  h.standing.rows_setTable hl _ hm

/-- A row of the changed table is the new one or was there with another identity. -/
theorem mem_amended (h : db.Sound) (hl : l ∈ Layout.standard) {row : Row} (hm : m ∈ Layout.standard)
    {r : Row} (hr : r ∈ (db.amended l row).rows m.name) :
    (r ∈ db.rows m.name ∧ (m = l → r.id ≠ row.id)) ∨ m = l ∧ r = row := by
  rw [rows_amended h hl row hm] at hr
  split at hr
  next hname =>
    obtain rfl := eq_of_name_eq hm hl hname
    obtain ⟨s, hs, rfl⟩ := List.mem_map.1 hr
    split
    next => exact .inr ⟨rfl, rfl⟩
    next hne => exact .inl ⟨hs, fun _ => hne⟩
  next hname => exact .inl ⟨hr, fun heq => absurd (congrArg Layout.name heq) hname⟩

theorem wrote_amended (h : db.Sound) (hl : l ∈ Layout.standard) (row : Row) :
    Wrote db (db.amended l row) l row where
  mem _ hm _ hr := mem_amended h hl hm hr
  stays m hm r hr := by
    rw [rows_amended h hl row hm]
    split
    next hname =>
      refine ⟨_, List.mem_map_of_mem (hname ▸ hr), ?_⟩
      split
      next hid => exact hid.symm
      next => rfl
    next => exact ⟨r, hr, rfl⟩

/-- A row that changes keeps a database sound if it keeps the rules. -/
theorem Sound.amended (h : db.Sound) (hl : l ∈ Layout.standard) {old row : Row}
    (hold : old ∈ db.rows l.name) (hid : row.id = old.id) (hfits : row.Fits l)
    (hunique : ∀ columns ∈ l.unique, ∀ other ∈ db.rows l.name, other.id ≠ row.id →
      ¬ row.Agrees columns other)
    (hnamed : ∀ link ∈ l.parents, ∃ p ∈ db.rows link.2, row.cell link.1 = .int p.id) :
    (db.amended l row).Sound := by
  have w := wrote_amended h hl row
  constructor
  case standing => exact h.standing.setTable hl _
  case fits => exact w.fits h hfits
  case ordered =>
    intro m hm
    rw [rows_amended h hl row hm]
    split
    next =>
      rw [List.pairwise_map]
      refine (h.ordered l hl).imp fun {r s} hlt => ?_
      have hsame (t : Row) : (if t.id = row.id then row else t).id = t.id := by
        split
        next heq => exact heq.symm
        next => rfl
      rw [hsame, hsame]
      exact hlt
    next => exact h.ordered m hm
  case numbered =>
    intro m hm r hr
    rcases mem_amended h hl hm hr with ⟨hr, _⟩ | ⟨rfl, rfl⟩
    · exact h.numbered m hm r hr
    · rw [hid]
      exact h.numbered m hm old hold
  case bounded => exact h.bounded
  case unique => exact w.unique h hfits hunique
  case named => exact w.named h hnamed

/-! ## Taking out rows -/

/-- A database in which of each table those rows stay that are to be kept. -/
def pruned (db : Database) (keep : String → Row → Bool) : Database :=
  { db with tables := db.tables.map fun t => { t with rows := t.rows.filter (keep t.layout.name) } }

theorem Standing.pruned (h : db.Standing) (keep : String → Row → Bool) :
    (db.pruned keep).Standing := by
  rw [Standing, Database.pruned, List.map_map]
  exact h

theorem rows_pruned (h : db.Standing) (keep : String → Row → Bool) (hm : m ∈ Layout.standard) :
    (db.pruned keep).rows m.name = (db.rows m.name).filter (keep m.name) := by
  have hmem : (⟨m, (db.rows m.name).filter (keep m.name)⟩ : Table) ∈ (db.pruned keep).tables :=
    List.mem_map.2 ⟨_, h.table_mem hm, rfl⟩
  have hsame := (h.pruned keep).eq_of_name ((h.pruned keep).table_mem hm) hmem rfl
  exact congrArg Table.rows hsame

/-- Taking out rows keeps a database sound if no row stays that names one taken out. -/
theorem Sound.pruned (h : db.Sound) {keep : String → Row → Bool}
    (hclosed : ∀ l ∈ Layout.standard, ∀ link ∈ l.parents, ∀ r ∈ db.rows l.name,
      keep l.name r = true → ∀ p ∈ db.rows link.2, r.cell link.1 = .int p.id →
      keep link.2 p = true) :
    (db.pruned keep).Sound := by
  have hsub : ∀ m ∈ Layout.standard, ∀ r ∈ (db.pruned keep).rows m.name,
      r ∈ db.rows m.name ∧ keep m.name r = true := by
    intro m hm r hr
    rw [rows_pruned h.standing keep hm] at hr
    exact List.mem_filter.1 hr
  constructor
  case standing => exact h.standing.pruned keep
  case fits => exact fun m hm r hr => h.fits m hm r (hsub m hm r hr).1
  case ordered =>
    intro m hm
    rw [rows_pruned h.standing keep hm]
    exact (h.ordered m hm).filter _
  case numbered => exact fun m hm r hr => h.numbered m hm r (hsub m hm r hr).1
  case bounded => exact h.bounded
  case unique =>
    exact fun m hm columns hcolumns r hr s hs =>
      h.unique m hm columns hcolumns r (hsub m hm r hr).1 s (hsub m hm s hs).1
  case named =>
    intro m hm link hlink r hr
    obtain ⟨parent, hparent, hname⟩ := List.mem_map.1 (parent_standard hm hlink)
    obtain ⟨hr, hkeep⟩ := hsub m hm r hr
    obtain ⟨p, hp, hcell⟩ := h.named m hm link hlink r hr
    have hstays := hclosed m hm link hlink r hr hkeep p hp hcell
    rw [← hname] at hp hstays ⊢
    rw [rows_pruned h.standing keep hparent]
    exact ⟨p, List.mem_filter.2 ⟨hp, hstays⟩, hcell⟩

end Database

end SchoolCatalog.Store
