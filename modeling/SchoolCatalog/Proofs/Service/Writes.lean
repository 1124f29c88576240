import SchoolCatalog.Proofs.Service.Effects

/-!
# Rows that are written

What stands in a row that was written for values. Values that say nothing of averages, whose ratings are
whole numbers and which move no course or review to another school make a plain effect, one that leaves
averages to recomputing. A course or review names its school, and its owner, by their identities.

Results:
1. `Adds.plain`, `Amends.plain`: ordinary values make a plain effect.
2. `Adds.holds`, `Amends.holds`: suiting values make rows that hold what they should.
3. `Adds.cell`, `Adds.stores`, `Amends.stores`: the cells of columns that values give once.
4. `Adds.school_cell`: the school that a new course or review names.
-/

namespace SchoolCatalog

open Service

namespace Store.Database

variable {around : Surroundings} {db mid after : Database} {c : Collection} {l : Layout}
  {values : Record} {row old : Row}

/-! ## Ordinary values -/

/-- Values for a table that say nothing of averages and whose ratings are whole numbers. -/
structure Ordinary (l : Layout) (values : Record) : Prop where
  averages : l = .schools → ∀ (a : Aggregate) (d : Datum), (a.targetField, d) ∉ values
  ratings : l = .reviews → ∀ d, ("rating", d) ∈ values → ∃ i, d = .int i

theorem exists_rating : ∃ col ∈ Layout.reviews.columns, col.name = "rating" ∧ col.required = true ∧
    col.affinity = .integer := by
  decide

/-- A written rating is a whole number, or what was there before. -/
theorem written_rating (hratings : ∀ d, ("rating", d) ∈ values → ∃ i, d = .int i) {col : Column}
    (hname : col.name = "rating") (hinteger : col.affinity = .integer) {before cell : Cell}
    (hwritten : Written values col before cell) : (∃ i, cell = .int i) ∨ cell = before := by
  rcases hwritten with ⟨d, v, hmem, hbind, rfl⟩ | ⟨_, hsame⟩
  · obtain ⟨i, rfl⟩ := hratings d (hname ▸ hmem)
    refine .inl ⟨i, ?_⟩
    rw [Cell.bind] at hbind
    split at hbind
    · cases hbind
      rw [hinteger]
      rfl
    · cases hbind
  · exact .inr hsame

/-- Adding ordinary values leaves the averages to recomputing. -/
theorem Adds.plain (hadds : db.Adds c l values row) (h : db.Sound) (k : Kept c l)
    (hvalues : Ordinary l values) : (Effect.add l row).Plain := by
  obtain ⟨stamp, _, hwritten⟩ := hadds.written
  constructor
  · rintro rfl
    obtain ⟨col, hcol, hname, hrequired, hinteger⟩ := exists_rating
    have hmem := mem_grown_self h k.mem_standard row
    have hnull := (hadds.sound.fits _ k.mem_standard row hmem).required col hcol hrequired
    have hratings : ∀ d, ("rating", d) ∈ stamped c values stamp → ∃ i, d = .int i := by
      intro d hd
      rcases mem_stamped hd with hd | hd
      · exact hvalues.ratings rfl d (mem_writable hd)
      · exact absurd (Prod.mk.inj hd).1 (by decide)
    rcases written_rating hratings hname hinteger (hwritten col hcol) with hwhole | hdefault
    · exact hname ▸ hwhole
    · -- without a rating the row would hold null, which its column does not take
      have hnone : ∀ col ∈ Layout.reviews.columns, col.default = .null := by decide
      rw [hdefault, hnone col hcol] at hnull
      exact nomatch hnull
  · rintro rfl a
    have hcell := hwritten a.column a.column_mem
    rw [a.column_name] at hcell
    rcases hcell with ⟨d, _, hd, _⟩ | ⟨_, hcell⟩
    · rw [a.column_name] at hd
      rcases mem_stamped hd with hd | hd
      · exact absurd (mem_writable hd) (hvalues.averages rfl a d)
      · exact absurd (Prod.mk.inj hd).1 a.targetField_ne
    · rw [hcell]
      cases a <;> rfl

/-- What belongs to a school is a key of its courses and reviews. -/
theorem school_column (a : Aggregate) : ∃ col ∈ a.layout.columns, col.name = "school_id" ∧
    col.affinity = .integer := by
  cases a <;> decide

/-- A value that is not given stays. -/
theorem Amends.cell_eq (hamends : db.Amends c l values old row) {col : Column}
    (hcol : col ∈ l.columns) (habsent : ∀ d, (col.name, d) ∉ values) :
    row.cell col.name = old.cell col.name := by
  rcases hamends.written col hcol with ⟨d, _, hd, _⟩ | ⟨_, hsame⟩
  · exact absurd (mem_writable hd) (habsent d)
  · exact hsame

/-- Writing ordinary values that give no school leaves the averages to recomputing. -/
theorem Amends.plain (hamends : db.Amends c l values old row) (hvalues : Ordinary l values)
    (hstays : ∀ d, ("school_id", d) ∉ values) : (Effect.amend l old row).Plain := by
  refine ⟨?_, ?_, ?_⟩
  · rintro rfl
    obtain ⟨col, hcol, hname, _, hinteger⟩ := exists_rating
    exact hname ▸ written_rating (fun d hd => hvalues.ratings rfl d (mem_writable hd)) hname hinteger
      (hamends.written col hcol)
  · rintro a rfl
    obtain ⟨col, hcol, hname, _⟩ := school_column a
    exact hname ▸ hamends.cell_eq hcol (hname ▸ hstays)
  · rintro rfl a
    exact a.column_name ▸ hamends.cell_eq a.column_mem
      (a.column_name ▸ hvalues.averages rfl a)

theorem ordinary_users (values : Record) : Ordinary .users values where
  averages h := absurd (congrArg Layout.name h) (by decide)
  ratings h := absurd (congrArg Layout.name h) (by decide)

theorem ordinary_courses (values : Record) : Ordinary .courses values where
  averages h := absurd (congrArg Layout.name h) (by decide)
  ratings h := absurd (congrArg Layout.name h) (by decide)

theorem ordinary_reviews {values : Record} (h : ∀ d, ("rating", d) ∈ values → ∃ i, d = .int i) :
    Ordinary .reviews values where
  averages heq := absurd (congrArg Layout.name heq) (by decide)
  ratings _ := h

/-! ## Suiting values -/

theorem suits_of_written (hvalues : Suiting l values) {col : Column}
    (hlink : col.name ∉ l.parents.map (·.1)) (hcol : l.column? col.name = some col) {d : Datum}
    (hd : (col.name, d) ∈ values) : col.affinity.suits d = true := by
  have hsuits := (hvalues _ hd).resolve_left hlink
  dsimp only [Layout.affinity] at hsuits
  rwa [hcol] at hsuits

/-- What names a row of another table is a number. -/
theorem holds_link (h : db.Sound) (k : Kept c l) {row : Row} (hrow : row ∈ db.rows l.name)
    {col : Column} (hcol : col ∈ l.columns) (hlink : col.name ∈ l.parents.map (·.1)) :
    col.affinity.Holds (row.cell col.name) := by
  obtain ⟨link, hmem, hname⟩ := List.mem_map.1 hlink
  obtain ⟨p, _, hcell⟩ := h.named l k.mem_standard link hmem row hrow
  obtain ⟨named, hnamed, hsame, _, hinteger⟩ := link_column k.mem_standard hmem
  obtain rfl := eq_of_mark_eq k.columns_nodup hnamed hcol (hsame.trans hname)
  rw [hinteger, hsame, hcell]
  exact .int _

/-- A row that is added for suiting values holds what it should. -/
theorem Adds.holds (hadds : db.Adds c l values row) (h : db.Sound) (k : Kept c l)
    (hvalues : Suiting l values) : row.Holds l := by
  obtain ⟨stamp, hstamp, hwritten⟩ := hadds.written
  have hl := k.mem_standard
  intro col hcol
  by_cases hlink : col.name ∈ l.parents.map (·.1)
  · exact holds_link hadds.sound k (mem_grown_self h hl row) hcol hlink
  rcases hwritten col hcol with ⟨d, v, hd, hbind, hcell⟩ | ⟨hnone, hcell⟩
  · rw [hcell]
    rcases mem_stamped hd with hd | hd
    · exact Affinity.holds_store (suits_of_written hvalues hlink (k.column?_eq hcol) (mem_writable hd)) hbind
    · obtain ⟨hname, rfl⟩ := Prod.mk.inj hd
      cases hbind
      rw [(numeric_iff hl hcol).2 hname, hstamp.store]
      exact .stamp hstamp
  · rw [hcell]
    refine holds_default hl hcol fun hnumeric => ?_
    obtain ⟨d, hd⟩ := created_stamped c values stamp
    exact hnone d ((numeric_iff hl hcol).1 hnumeric ▸ hd)

/-- A row that is amended with suiting values holds what it should, if it did before. -/
theorem Amends.holds (hamends : db.Amends c l values old row) (h : db.Sound) (k : Kept c l)
    (hvalues : Suiting l values) (hold : old.Holds l) : row.Holds l := by
  intro col hcol
  by_cases hlink : col.name ∈ l.parents.map (·.1)
  · exact holds_link hamends.sound k
      (mem_amended_self h k.mem_standard hamends.mem hamends.same) hcol hlink
  rcases hamends.written col hcol with ⟨d, v, hd, hbind, hcell⟩ | ⟨_, hcell⟩
  · rw [hcell]
    exact Affinity.holds_store (suits_of_written hvalues hlink (k.column?_eq hcol) (mem_writable hd)) hbind
  · exact hcell ▸ hold col hcol

theorem suiting_putAll {other : Record} (h : Suiting l values) (h' : Suiting l other) :
    Suiting l (Record.putAll values other) :=
  fun entry hentry => (Record.mem_putAll hentry).elim (h entry) (h' entry)

theorem suits_wording (w : Wording) : Affinity.text.suits (.ofWording w) = true := by
  cases w <;> rfl

theorem suits_optional (s : Option String) :
    Affinity.text.suits (.ofOption (s.map .text)) = true := by
  cases s <;> rfl

/-- Values that are given suit their columns if all that might be given do. -/
theorem suiting_given {fields : List (String × Option Datum)}
    (h : ∀ field ∈ fields, ∀ d, field.2 = some d →
      (l.affinity (.column field.1)).suits d = true) : Suiting l (given fields) :=
  fun entry hentry => .inr (h _ (mem_given hentry) entry.2 rfl)

/-! ## Effects of writing -/

theorem users_plain (a : Aggregate) : a.layout.name ≠ Layout.users.name := by cases a <;> decide

theorem Adds.makes (hadds : db.Adds c l values row) (k : Kept c l) :
    (Effect.add l row).Makes db (db.grown l row) :=
  .add k hadds.next hadds.sound

theorem Amends.makes (hamends : db.Amends c l values old row) (k : Kept c l) :
    (Effect.amend l old row).Makes db (db.amended l row) :=
  .amend k hamends.mem hamends.same hamends.sound

/-- Writing a user or a school makes no average due. -/
theorem Adds.leaves (hadds : db.Adds c l values row) (k : Kept c l)
    (hplain : ∀ a : Aggregate, a.layout.name ≠ l.name) : (Effect.add l row).Leaves around db (db.grown l row) :=
  ⟨_, hadds.makes k, .none hadds.sound fun a _ hdue => hplain a hdue.1⟩

theorem Amends.leaves (hamends : db.Amends c l values old row) (k : Kept c l)
    (hplain : ∀ a : Aggregate, a.layout.name ≠ l.name) :
    (Effect.amend l old row).Leaves around db (db.amended l row) :=
  ⟨_, hamends.makes k, .none hamends.sound fun a _ hdue => hplain a hdue.1⟩

/-! ## Cells -/

/-- The cell of a column that the values of a new row give once. -/
theorem Adds.cell (hadds : db.Adds c l values row) (k : Kept c l) {col : Column}
    (hcol : col ∈ l.columns) (hstamp : col.name ≠ "created_at") {d : Datum}
    (hd : (col.name, d) ∈ values) (honly : ∀ e, (col.name, e) ∈ values → e = d) :
    ∃ v, Cell.bind d = .ok v ∧ row.cell col.name = col.affinity.store v := by
  obtain ⟨stamp, _, hwritten⟩ := hadds.written
  rcases hwritten col hcol with ⟨e, v, he, hv, hcell⟩ | ⟨hnot, _⟩
  · rcases mem_stamped he with he | he
    · obtain rfl := honly e (mem_writable he)
      exact ⟨v, hv, hcell⟩
    · exact absurd (Prod.mk.inj he).1 hstamp
  · exact absurd (mem_stamped_of k hcol hd hstamp) (hnot d)

/-- The cell of a column that the values of a new row do not give. -/
theorem Adds.cell_default (hadds : db.Adds c l values row) {col : Column} (hcol : col ∈ l.columns)
    (hstamp : col.name ≠ "created_at") (habsent : ∀ d, (col.name, d) ∉ values) :
    row.cell col.name = col.default := by
  obtain ⟨stamp, _, hwritten⟩ := hadds.written
  rcases hwritten col hcol with ⟨d, _, hd, _⟩ | ⟨_, hcell⟩
  · rcases mem_stamped hd with hd | hd
    · exact absurd (mem_writable hd) (habsent d)
    · exact absurd (Prod.mk.inj hd).1 hstamp
  · exact hcell

/-- A new row stores what its values give for columns, the stamp apart. -/
theorem Adds.stores (hadds : db.Adds c l values row) (k : Kept c l)
    (hnodup : (Record.names values).Nodup) {part : Record} (hpart : ∀ entry ∈ part, entry ∈ values)
    (hcolumns : ∀ entry ∈ part, entry.1 ≠ "created_at" ∧ ∃ col ∈ l.columns, col.name = entry.1) :
    row.Stores l part := by
  obtain ⟨stamp, _, hwritten⟩ := hadds.written
  have hall := stores_of_written k (forColumns_stamped k values stamp) (nodup_stamped hnodup) hwritten
  rintro ⟨name, d⟩ hentry
  obtain ⟨hne, col, hcol, rfl⟩ := hcolumns _ hentry
  exact hall _ (mem_stamped_of k hcol (hpart _ hentry) hne)

/-- An amended row stores what its values give for columns. -/
theorem Amends.stores (hamends : db.Amends c l values old row) (k : Kept c l)
    (hnodup : (Record.names values).Nodup) {part : Record} (hpart : ∀ entry ∈ part, entry ∈ values)
    (hcolumns : ∀ entry ∈ part, ∃ col ∈ l.columns, col.name = entry.1) : row.Stores l part := by
  have hall := stores_of_written k (forColumns_writable c values) (nodup_writable hnodup)
    hamends.written
  rintro ⟨name, d⟩ hentry
  obtain ⟨col, hcol, rfl⟩ := hcolumns _ hentry
  obtain ⟨hdeclared, hid⟩ := forColumns_single k hcol d _ (List.mem_singleton_self _)
  exact hall _ (List.mem_filter.2 ⟨hpart _ hentry, by simpa [hasField_iff] using ⟨hdeclared, hid⟩⟩)

section Dependents

variable {a : Aggregate} {s : Int} {school : Datum}

theorem isKey_user (a : Aggregate) : IsKey a.dependents a.layout "user_id" := by
  refine ⟨?_, .inr ⟨"users", ?_⟩⟩
  · cases a <;> decide
  · cases a <;> decide

theorem isKey_owner : IsKey .schools .schools "user_id" :=
  ⟨by decide, .inr ⟨"users", by decide⟩⟩

/-- The values of a new course or review name its school. -/
theorem mem_addressed {record : Record} (school caller : Datum)
    (habsent : ∀ d, ("school_id", d) ∉ record) :
    ("school_id", school) ∈ Record.putAll record [("school_id", school), ("user_id", caller)] ∧
      ∀ d, ("school_id", d) ∈ Record.putAll record [("school_id", school), ("user_id", caller)] →
        d = school := by
  constructor
  · exact Record.mem_put_of_ne (Record.mem_put_self record "school_id" school)
      (by decide : "school_id" ≠ "user_id")
  · intro d hd
    rcases Record.mem_putAll hd with hd | hd
    · exact absurd hd (habsent d)
    · simpa using hd

/-- A new course or review names the school that its values name. -/
theorem Adds.school_cell (hadds : db.Adds a.dependents a.layout values row)
    (hschool : ("school_id", school) ∈ values) (honly : ∀ d, ("school_id", d) ∈ values → d = school)
    (hs : school.Denotes s) : row.cell "school_id" = .int s := by
  obtain ⟨col, hcol, hname, hinteger⟩ := school_column a
  obtain ⟨v, hv, hcell⟩ := hadds.cell a.kept_dependents hcol (by rw [hname]; decide)
    (hname ▸ hschool) (hname ▸ honly)
  obtain ⟨v', hv', hadapt⟩ := hs
  cases hv.symm.trans hv'
  rw [← hname, hcell, hinteger]
  exact hadapt

end Dependents

end Store.Database
end SchoolCatalog
