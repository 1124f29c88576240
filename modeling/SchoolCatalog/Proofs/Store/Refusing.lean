import SchoolCatalog.Proofs.Store.Accepting

/-!
# When a write is refused

A sound database refuses values that the columns let in, and that name rows that are there, for three
reasons only: a text among them is broken, no identity is left for a new row, or the row would agree
with another one in columns in which no two rows may agree. In the first two cases no rule is broken; in
the third some rule is, whichever it is that the table sees first.

Results:
1. `takes_of_unchecked`, `takes_role`, `takes_rating`, `takes_link`: what a table takes.
2. `Proposal.fits`, `accept_of_distinct`, `accept_of_clash`: the row that values make.
3. `clashes_of_text`, `clashes_of_links`, `not_clashes_of_kept`: when a row agrees with another.
4. `verdict_insert`, `verdict_update`: whether a write is refused, and with what failure.
-/

namespace SchoolCatalog

open Store

/-- What stands for the identity of a row is no broken text. -/
theorem Datum.Denotes.ne_broken {d : Datum} {i : Int} (h : d.Denotes i) (points : List Nat) :
    d ≠ .broken points := by
  rintro rfl
  obtain ⟨_, hv, _⟩ := h
  exact nomatch hv

/-- Whether a failure reports a broken rule. -/
def Failure.IsViolation (failure : Failure) : Prop := ∃ rule, failure = .violated rule

namespace Store

variable {db : Database} {c : Collection} {l : Layout} {values : Record} {others : List Row} {row : Row}
  {name : String} {d : Datum}

/-! ## What a table takes -/

/-- What a column lets in. -/
structure Column.Admits (col : Column) (cell : Cell) : Prop where
  filled : col.required = true → cell.isNull = false
  checked : ∀ check, col.check = some check → check.holds cell = true

instance (col : Column) (cell : Cell) : Decidable (col.Admits cell) :=
  decidable_of_iff
    ((col.required = true → cell.isNull = false) ∧ (col.check.all (·.holds cell)) = true) <| by
    refine ⟨fun h => ⟨h.1, fun check hcheck => ?_⟩, fun h => ⟨h.filled, ?_⟩⟩
    · rw [hcheck] at h
      exact h.2
    · cases hcheck : col.check with
      | none => rfl
      | some check => exact h.checked check hcheck

/-- Whether a value can be bound, unless it is a broken text. -/
def Legible (d : Datum) : Prop := (∃ v, Cell.bind d = .ok v) ∨ ∃ points, d = .broken points

/-- Whether a table takes a value under a name: it is legible, and the column lets in what can be
bound. -/
structure Layout.Takes (l : Layout) (name : String) (d : Datum) : Prop where
  legible : Legible d
  admitted : ∀ col ∈ l.columns, col.name = name → ∀ v, Cell.bind d = .ok v →
    col.Admits (col.affinity.store v)

/-- Nothing is lost by storing it. -/
theorem Affinity.isNull_store (a : Affinity) (v : Cell) : (a.store v).isNull = v.isNull := by
  have hwhole (x : Binary64) : (wholeIfPossible x).isNull = false := by
    unfold wholeIfPossible
    split
    · split <;> rfl
    · rfl
  have hnumeric : (toNumeric v).isNull = v.isNull := by
    cases v with
    | text s =>
      unfold toNumeric
      dsimp only
      split
      · rfl
      · exact hwhole _
      · rfl
    | real x => exact hwhole x
    | null | int i | blob b => rfl
  cases a with
  | integer | numeric => exact hnumeric
  | real =>
    refine Eq.trans ?_ hnumeric
    rw [store]
    cases toNumeric v <;> rfl
  | text => cases v <;> rfl
  | anything => rfl

/-- A column without a check, and one that need not be filled, takes any legible value. -/
theorem takes_optional (hd : Legible d)
    (hopen : ∀ col ∈ l.columns, col.name = name → col.required = false ∧ col.check.isNone = true) :
    l.Takes name d := by
  refine ⟨hd, fun col hcol hname v _ => ?_⟩
  obtain ⟨hoptional, hunchecked⟩ := hopen col hcol hname
  refine ⟨fun hrequired => ?_, fun check hcheck => ?_⟩
  · rw [hoptional] at hrequired
    exact nomatch hrequired
  · rw [hcheck] at hunchecked
    exact nomatch hunchecked

/-- A column without a check takes any legible value that is not null. -/
theorem takes_of_unchecked (hd : Legible d) (hfilled : ∀ v, Cell.bind d = .ok v → v.isNull = false)
    (hunchecked : ∀ col ∈ l.columns, col.name = name → col.check.isNone = true) : l.Takes name d := by
  refine ⟨hd, fun col hcol hname v hv => ⟨fun _ => ?_, fun check hcheck => ?_⟩⟩
  · rw [Affinity.isNull_store]
    exact hfilled v hv
  · have hnone := hunchecked col hcol hname
    rw [hcheck] at hnone
    exact nomatch hnone

theorem legible_wording (w : Wording) : Legible (.ofWording w) := by
  cases w with
  | proper s => exact .inl ⟨_, rfl⟩
  | broken points => exact .inr ⟨points, rfl⟩

theorem takes_wording (w : Wording)
    (hunchecked : ∀ col ∈ l.columns, col.name = name → col.check.isNone = true) :
    l.Takes name (.ofWording w) := by
  refine takes_of_unchecked (legible_wording w) (fun v hv => ?_) hunchecked
  cases w with
  | proper s => exact Except.ok.inj hv ▸ rfl
  | broken points => exact nomatch hv

theorem takes_text (s : String)
    (hunchecked : ∀ col ∈ l.columns, col.name = name → col.check.isNone = true) :
    l.Takes name (.text s) :=
  takes_wording (.proper s) hunchecked

/-- A number that is one. -/
theorem takes_real {x : Binary64} (hx : x.isNaN = false)
    (hunchecked : ∀ col ∈ l.columns, col.name = name → col.check.isNone = true) :
    l.Takes name (.real x) := by
  have hbind : Cell.bind (.real x) = .ok (.real x) := by rw [Cell.bind, hx]; rfl
  refine takes_of_unchecked (.inl ⟨_, hbind⟩) (fun v hv => ?_) hunchecked
  exact Except.ok.inj (hbind.symm.trans hv) ▸ rfl

theorem takes_flag (b : Bool)
    (hunchecked : ∀ col ∈ l.columns, col.name = name → col.check.isNone = true) :
    l.Takes name (.bool b) :=
  takes_of_unchecked (.inl ⟨_, rfl⟩) (fun _ hv => Except.ok.inj hv ▸ rfl) hunchecked

/-- What stands for the identity of a row. -/
theorem takes_link {i : Int} (hd : d.Denotes i)
    (hunchecked : ∀ col ∈ l.columns, col.name = name → col.check.isNone = true) : l.Takes name d := by
  obtain ⟨v, hv, hadapt⟩ := hd
  refine takes_of_unchecked (.inl ⟨v, hv⟩) (fun w hw => ?_) hunchecked
  obtain rfl := Except.ok.inj (hv.symm.trans hw)
  cases v with
  | null => exact nomatch hadapt
  | int | real | text | blob => rfl

theorem takes_role {role : String} (hrole : role ∈ allRoles) :
    Layout.users.Takes "role" (.text role) := by
  refine ⟨.inl ⟨_, rfl⟩, fun col hcol hname v hv => ?_⟩
  obtain rfl := Except.ok.inj hv
  have hall : ∀ role ∈ allRoles, ∀ col ∈ Layout.users.columns, col.name = "role" →
      col.Admits (col.affinity.store (.text role)) := by
    decide
  exact hall role hrole col hcol hname

theorem takes_rating {rating : Int} (hleast : 1 ≤ rating) (hmost : rating ≤ 10) :
    Layout.reviews.Takes "rating" (.int rating) := by
  have hall : ∀ n < 10, ∀ col ∈ Layout.reviews.columns, col.name = "rating" →
      col.Admits (col.affinity.store (.int (n + 1 : Nat))) := by
    decide
  have hfits : Number.fitsWord rating = true := by
    rw [Number.fitsWord, Bool.and_eq_true, decide_eq_true_iff, decide_eq_true_iff]
    exact ⟨Int.le_trans (by decide) hleast, Int.le_trans hmost (by decide)⟩
  have hbind : Cell.bind (.int rating) = .ok (.int rating) := by rw [Cell.bind, if_pos hfits]
  refine ⟨.inl ⟨_, hbind⟩, fun col hcol hname v hv => ?_⟩
  obtain rfl := Except.ok.inj (hbind.symm.trans hv)
  obtain ⟨n, hn⟩ := Int.eq_ofNat_of_zero_le (by omega : 0 ≤ rating - 1)
  obtain rfl : rating = (n + 1 : Nat) := by omega
  exact hall n (by omega) col hcol hname

/-! ## Values -/

/-- Values for different columns of a table, each of which the table takes. -/
structure Proposal (c : Collection) (l : Layout) (values : Record) : Prop where
  columns : ForColumns c values
  nodup : (Record.names values).Nodup
  taken : ∀ entry ∈ values, l.Takes entry.1 entry.2

theorem proposal_of_names (names : List String) (hnames : (Record.names values).Sublist names)
    (hdeclared : ∀ name ∈ names, name ∈ c.fieldNames ∧ name ≠ "id") (hnodup : names.Nodup)
    (htaken : ∀ entry ∈ values, l.Takes entry.1 entry.2) : Proposal c l values where
  columns _ hentry := hdeclared _ (hnames.subset (List.mem_map_of_mem hentry))
  nodup := hnodup.sublist hnames
  taken := htaken

/-- There is a broken text among the values. -/
def Garbled (values : Record) : Prop := ∃ entry ∈ values, ∃ points, entry.2 = .broken points

theorem garbled_append {front back : Record} :
    Garbled (front ++ back) ↔ Garbled front ∨ Garbled back := by
  simp only [Garbled, List.mem_append, or_and_right, exists_or]

theorem garbled_append_clear {front back : Record} (h : ¬ Garbled back) :
    Garbled (front ++ back) ↔ Garbled front :=
  garbled_append.trans (or_iff_left h)

/-- Values that stand for identities are no broken texts. -/
theorem clear_links {links : Record} (h : ∀ link ∈ links, ∃ i, link.2.Denotes i) :
    ¬ Garbled links := by
  rintro ⟨link, hlink, points, hbroken⟩
  obtain ⟨i, hi⟩ := h link hlink
  exact hi.ne_broken points hbroken

theorem Proposal.assign_of_clear (h : Proposal c l values) (k : Kept c l) (hclear : ¬ Garbled values) :
    ∃ a, l.assign values = .ok a := by
  rw [assign_eq k h.columns]
  cases hassign : values.mapM fun v => (Cell.bind v.2).map (Reference.column v.1, ·) with
  | ok a => exact ⟨a, rfl⟩
  | error failure =>
    obtain ⟨front, entry, back, rfl, _, hentry⟩ := mapM_eq_error.1 hassign
    have hmem : entry ∈ front ++ entry :: back := by simp
    rcases (h.taken entry hmem).legible with ⟨v, hv⟩ | hbroken
    · rw [hv] at hentry
      exact nomatch hentry
    · exact absurd ⟨entry, hmem, hbroken⟩ hclear

theorem Proposal.assign_of_garbled (h : Proposal c l values) (k : Kept c l)
    (hgarbled : Garbled values) : ∃ fault, l.assign values = .error (.unencodable fault) := by
  rw [assign_eq k h.columns]
  cases hassign : values.mapM fun v => (Cell.bind v.2).map (Reference.column v.1, ·) with
  | ok a =>
    obtain ⟨⟨_, _⟩, hentry, points, rfl⟩ := hgarbled
    obtain ⟨_, _, hbound⟩ := (mapM_ok hassign).2 _ hentry
    exact nomatch hbound
  | error failure =>
    obtain ⟨front, entry, back, rfl, _, hentry⟩ := mapM_eq_error.1 hassign
    rcases (h.taken entry (by simp)).legible with ⟨v, hv⟩ | ⟨points, hbroken⟩
    · rw [hv] at hentry
      exact nomatch hentry
    · rw [hbroken] at hentry
      cases hentry
      exact ⟨_, rfl⟩

/-- A text of a row is what the values give for it, or what it was before. -/
theorem Written.text_cell {fields : List (String × Option Datum)} {value : Option String}
    {col : Column} {before after : Cell} (h : Written (given fields) col before after)
    (htext : col.affinity = .text) (hgiven : (col.name, value.map Datum.text) ∈ fields)
    (honly : ∀ d, (col.name, d) ∈ fields → d = value.map Datum.text) :
    after = value.elim before .text := by
  rcases h with ⟨d, v, hd, hv, rfl⟩ | ⟨hnone, rfl⟩
  · obtain ⟨s, hs, rfl⟩ := Option.map_eq_some_iff.1 (honly _ (mem_given hd)).symm
    obtain rfl := Except.ok.inj hv
    rw [hs, htext]
    rfl
  · cases value with
    | none => rfl
    | some s => exact absurd (given_of_mem hgiven) (hnone _)

theorem Row.Stores.text (h : row.Stores l values) {s : String} (hs : (name, .text s) ∈ values)
    (htext : l.affinity (.column name) = .text) : row.cell name = .text s := by
  obtain ⟨v, hv, hcell⟩ := h _ hs
  obtain rfl := Except.ok.inj hv
  rw [hcell, htext]
  rfl

/-! ## Rows that fit -/

/-- A row that is written with values that the table takes, over cells that the columns let in, fits its
table. -/
theorem Proposal.fits (h : Proposal c l values) {before : Column → Cell}
    (hnames : row.cells.map (·.1) = l.columns.map (·.name))
    (hwritten : ∀ col ∈ l.columns, Written values col (before col) (row.cell col.name))
    (hkeeps : ∀ col ∈ l.columns, col.affinity.Keeps (before col))
    (hbefore : ∀ col ∈ l.columns, col.name ∉ Record.names values → col.Admits (before col)) :
    row.Fits l := by
  have hcell : ∀ col ∈ l.columns, col.Admits (row.cell col.name) := by
    intro col hcol
    rcases hwritten col hcol with ⟨d, v, hd, hv, hcell⟩ | ⟨hnone, hcell⟩
    · exact hcell ▸ (h.taken _ hd).admitted col hcol rfl v hv
    · refine hcell ▸ hbefore col hcol fun hgiven => ?_
      obtain ⟨⟨_, d⟩, hd, rfl⟩ := List.mem_map.1 hgiven
      exact hnone d hd
  exact {
    names := hnames
    kept := fun col hcol => (hwritten col hcol).keeps (hkeeps col hcol)
    required := fun col hcol => (hcell col hcol).filled
    checked := fun col hcol => (hcell col hcol).checked }

/-- The rows that a new row has to name are there, and the values name them. -/
def Database.Provides (db : Database) (l : Layout) (values : Record) : Prop :=
  ∀ link ∈ l.parents, ∃ p ∈ db.rows link.2, ∃ d, (link.1, d) ∈ values ∧ d.Denotes p.id

/-- A column that names rows of another table holds the identity that is written there. -/
theorem link_cell (hl : l ∈ Layout.standard) {link : String × String} (hlink : link ∈ l.parents)
    (hstores : row.Stores l values) {i : Int} (hd : (link.1, d) ∈ values) (hi : d.Denotes i) :
    row.cell link.1 = .int i := by
  have hinteger : ∀ l ∈ Layout.standard, ∀ link ∈ l.parents,
      l.affinity (.column link.1) = .integer := by
    decide
  obtain ⟨v, hv, hadapt⟩ := hi
  obtain ⟨v', hv', hcell⟩ := hstores _ hd
  cases hv.symm.trans hv'
  rw [hcell, hinteger l hl link hlink]
  exact hadapt

/-! ## Rows that clash -/

/-- A row agrees with one of others in columns in which no two rows may agree. -/
def Layout.Clashes (l : Layout) (row : Row) (others : List Row) : Prop :=
  ∃ columns ∈ l.unique, ∃ other ∈ others, row.Agrees columns other

theorem compare_text_iff {s : String} {cell : Cell} :
    (Cell.text s).compare cell = .eq ↔ cell = .text s := by
  constructor
  · intro h
    cases cell with
    | text t =>
      have hsame : Ord.compare s t = .eq := by simpa [Cell.compare, Cell.rank] using h
      rw [Std.LawfulEqOrd.eq_of_compare hsame]
    | null => exact nomatch (show Ordering.gt = .eq from h)
    | int i => exact nomatch (show Ordering.gt = .eq from h)
    | real x => exact nomatch (show Ordering.gt = .eq from h)
    | blob b => exact nomatch (show Ordering.lt = .eq from h)
  · rintro rfl
    exact Cell.compare_self trivial

/-- Where no two rows may have the same text, a row clashes with those that have its text. -/
theorem clashes_of_text {s : String} (hunique : l.unique = [[name]]) (hcell : row.cell name = .text s) :
    l.Clashes row others ↔ ∃ other ∈ others, other.cell name = .text s := by
  have hfilled : (Cell.text s).isNull = false := rfl
  simp only [Layout.Clashes, hunique, List.mem_singleton, exists_eq_left, Row.Agrees, forall_eq, hcell,
    hfilled, true_and, compare_text_iff]

/-- Where no two rows may name the same two rows, a row clashes with those that name the same. -/
theorem clashes_of_links {f g : String} {i j : Int} (hunique : l.unique = [[f, g]])
    (hf : row.cell f = .int i) (hg : row.cell g = .int j)
    (hothers : ∀ other ∈ others, (∃ n, other.cell f = .int n) ∧ ∃ n, other.cell g = .int n) :
    l.Clashes row others ↔ ∃ other ∈ others, other.cell f = .int i ∧ other.cell g = .int j := by
  have hsame {i n : Int} : (Cell.int i).compare (.int n) = .eq ↔ n = i := by
    show Ord.compare i n = .eq ↔ n = i
    rw [Std.LawfulEqOrd.compare_eq_iff_eq, eq_comm]
  have hfilled (n : Int) : (Cell.int n).isNull = false := rfl
  simp only [Layout.Clashes, hunique, List.mem_singleton, exists_eq_left]
  refine exists_congr fun other => and_congr_right fun hother => ?_
  obtain ⟨⟨n, hn⟩, m, hm⟩ := hothers other hother
  simp only [Row.Agrees, List.forall_mem_cons, hf, hg, hn, hm, hfilled, true_and, hsame, Cell.int.injEq,
    List.not_mem_nil, false_implies, implies_true, and_true]

/-- A row that stays as it was where no two rows may agree clashes with no other. -/
theorem not_clashes_of_kept (h : db.Sound) (hl : l ∈ Layout.standard) {old : Row}
    (hold : old ∈ db.rows l.name)
    (hsame : ∀ columns ∈ l.unique, ∀ name ∈ columns, row.cell name = old.cell name) :
    ¬ l.Clashes row ((db.rows l.name).filter (·.id != old.id)) := by
  rintro ⟨columns, hcolumns, other, hother, hagrees⟩
  obtain ⟨hother, hne⟩ := List.mem_filter.1 hother
  refine h.unique l hl columns hcolumns old hold other hother
    (fun hid => by simp [hid] at hne) fun name hname => ?_
  rw [← hsame columns hcolumns name hname]
  exact hagrees name hname

/-- A row that is given a text where no two rows may have the same clashes with the others that have
it. -/
theorem clashes_of_change (h : db.Sound) (hl : l ∈ Layout.standard) {old : Row}
    (hold : old ∈ db.rows l.name) {id : Datum} (hid : id.Denotes old.id) (hunique : l.unique = [[name]])
    {value : Option String} (hcell : row.cell name = value.elim (old.cell name) .text) :
    l.Clashes row ((db.rows l.name).filter (·.id != old.id)) ↔
      ∃ s, value = some s ∧ ∃ other ∈ db.rows l.name,
        ¬ id.Denotes other.id ∧ other.cell name = .text s := by
  cases value with
  | none =>
    refine iff_of_false (not_clashes_of_kept h hl hold ?_) (by simp)
    rw [hunique]
    simpa using hcell
  | some s =>
    rw [clashes_of_text hunique hcell]
    have hother {other : Row} : other.id ≠ old.id ↔ ¬ id.Denotes other.id :=
      not_congr ⟨fun hsame => hsame.symm ▸ hid, fun hother => hother.unique hid⟩
    simp only [List.mem_filter, bne_iff_ne, hother, and_assoc, Option.some.injEq, exists_eq_left']

/-- Rows that hold the same where no two rows may agree are one. -/
theorem Database.Sound.eq_of_unique (h : db.Sound) (hl : l ∈ Layout.standard) {columns : List String}
    (hcolumns : columns ∈ l.unique) {row other : Row} (hrow : row ∈ db.rows l.name)
    (hother : other ∈ db.rows l.name) (hsame : ∀ name ∈ columns, other.cell name = row.cell name) :
    other = row := by
  have hrequired : ∀ l ∈ Layout.standard, ∀ columns ∈ l.unique, ∀ name ∈ columns,
      ∃ col ∈ l.columns, col.name = name ∧ col.required = true := by
    decide
  refine h.eq_of_id hl hother hrow (not_not.1 fun hne => ?_)
  refine h.unique l hl columns hcolumns other hother row hrow hne fun name hname => ?_
  obtain ⟨col, hcol, rfl, hrequired⟩ := hrequired l hl columns hcolumns name hname
  have hfits := h.fits l hl other hother
  rw [← hsame col.name hname]
  exact ⟨hfits.required col hcol hrequired, Cell.compare_self (hfits.kept col hcol).proper⟩

namespace Database

theorem accept_of_distinct (h : db.Sound) (hl : l ∈ Layout.standard) (hfits : row.Fits l)
    (hids : ∀ other ∈ others, other.id ≠ row.id)
    (hnamed : ∀ link ∈ l.parents, ∃ p ∈ db.rows link.2, row.cell link.1 = .int p.id)
    (hdistinct : ¬ l.Clashes row others) : db.accept l others row = .ok () :=
  (accept_iff h hl hfits.names hfits.kept).2 ⟨hfits, hids,
    fun columns hcolumns other hother hagrees => hdistinct ⟨columns, hcolumns, other, hother, hagrees⟩,
    hnamed⟩

/-- A row that clashes with another breaks some rule. -/
theorem accept_of_clash (h : db.Sound) (hl : l ∈ Layout.standard) (hfits : row.Fits l)
    (hclash : l.Clashes row others) : ∃ rule, db.accept l others row = .error (.violated rule) := by
  obtain ⟨columns, hcolumns, other, hother, hagrees⟩ := hclash
  have hnot : db.accept l others row ≠ .ok () := fun haccept =>
    ((accept_iff h hl hfits.names hfits.kept).1 haccept).2.2.1 columns hcolumns other hother hagrees
  unfold accept at hnot ⊢
  split
  next rule _ => exact ⟨rule, rfl⟩
  next hnone =>
    rw [hnone] at hnot
    dsimp only at hnot
    split
    next hexist => exact absurd (if_pos hexist) hnot
    next => exact ⟨_, rfl⟩

/-! ## Refusals -/

/-- The identities of a table are used up. -/
def IsFull (db : Database) (name : String) : Prop :=
  db.greatestHandedOut name = Number.greatestWord

theorem insert_of_full (h : db.Sound) (k : Kept c l) (hvalues : ForColumns c values)
    (hnodup : (Record.names values).Nodup) {a : Assignments} (ha : l.assign values = .ok a)
    (hfull : db.IsFull l.name) : db.insert c values = .error .unavailable := by
  have hid : db.newId ⟨l, db.rows l.name⟩ a = .error .unavailable := by
    rw [newId, identity?_assigned k hvalues ha]
    dsimp only
    rw [nextId_eq h k.mem_standard, if_neg (by rw [hfull]; exact Int.lt_irrefl _)]
  unfold insert
  rw [check_values k hvalues hnodup, h.standing.table_eq k]
  show (l.assign values >>= _) = _
  rw [ha]
  show (db.newId _ a >>= _) = _
  rw [hid]
  rfl

theorem insert_of_refused (h : db.Sound) (k : Kept c l) (hvalues : ForColumns c values)
    (hnodup : (Record.names values).Nodup) {a : Assignments} (ha : l.assign values = .ok a)
    (hroom : db.greatestHandedOut l.name < Number.greatestWord) {failure : Failure}
    (hrefused : db.accept l (db.rows l.name) ⟨db.greatestHandedOut l.name + 1, a.newCells l⟩ =
      .error failure) : db.insert c values = .error failure := by
  unfold insert
  rw [check_values k hvalues hnodup, h.standing.table_eq k]
  show (l.assign values >>= _) = _
  rw [ha]
  show (db.newId _ a >>= _) = _
  rw [newId_assigned h k hvalues ha hroom]
  show (db.accept _ _ _ >>= _) = _
  rw [hrefused]
  rfl

theorem update_of_refused (h : db.Sound) (k : Kept c l) (hvalues : ForColumns c values)
    (hnodup : (Record.names values).Nodup) {a : Assignments} (ha : l.assign values = .ok a)
    {id : Datum} {old : Row} (hold : old ∈ db.rows l.name) (hid : id.Denotes old.id)
    {failure : Failure} (hrefused : db.accept l ((db.rows l.name).filter (·.id != old.id))
      ⟨old.id, a.changedCells l old.cells⟩ = .error failure) :
    db.update c id values = .error failure := by
  obtain ⟨key, hkey, hadapt⟩ := hid
  have hfind := (find?_hasId h k.mem_standard hkey hold).2 ⟨key, hkey, hadapt⟩
  have hchanged : changedId old a = .ok old.id := by
    rw [changedId, identity?_assigned k hvalues ha]
  unfold update
  rw [check_values k hvalues hnodup, h.standing.table_eq k]
  show (l.assign values >>= _) = _
  rw [ha]
  show (Cell.bind id >>= _) = _
  rw [hkey]
  dsimp only [bind, Except.bind]
  rw [hfind]
  show (changedId old a >>= _) = _
  rw [hchanged]
  show (db.accept _ _ _ >>= _) = _
  rw [hrefused]
  rfl

end Database

/-! ## Verdicts -/

/-- What may stand in the way of a write. -/
structure Hurdles where
  /-- A text is broken. -/
  garbled : Prop
  /-- No identity is left. -/
  full : Prop
  /-- Another row has what no two rows may have. -/
  contested : Prop

/-- How a write comes out: it succeeds if nothing stands in its way, and a hurdle that it meets first
decides how it fails; `refusal` says how it fails where it is contested. -/
inductive Verdict {α : Type} (hurdles : Hurdles) (refusal : Failure → Prop) : Except Failure α → Prop
  | garbled {fault : UnpairedHalf} : hurdles.garbled →
      Verdict hurdles refusal (.error (.unencodable fault))
  | full : ¬ hurdles.garbled → hurdles.full → Verdict hurdles refusal (.error .unavailable)
  | contested {failure : Failure} : ¬ hurdles.garbled → ¬ hurdles.full → hurdles.contested →
      refusal failure → Verdict hurdles refusal (.error failure)
  | free {a : α} : ¬ hurdles.garbled → ¬ hurdles.full → ¬ hurdles.contested →
      Verdict hurdles refusal (.ok a)

namespace Verdict

variable {α β : Type} {hurdles others : Hurdles} {refusal : Failure → Prop} {result : Except Failure α}

theorem map (h : Verdict hurdles refusal result) (f : α → β) :
    Verdict hurdles refusal (result.map f) := by
  cases h with
  | garbled hgarbled => exact .garbled hgarbled
  | full hclear hfull => exact .full hclear hfull
  | contested hclear hroom hcontested hrefused => exact .contested hclear hroom hcontested hrefused
  | free hclear hroom hfree => exact .free hclear hroom hfree

/-- A failure is judged by itself, whatever else might have been answered. -/
theorem error {failure : Failure} (h : Verdict hurdles refusal (.error failure : Except Failure α)) :
    Verdict hurdles refusal (.error failure : Except Failure β) := by
  cases h with
  | garbled hgarbled => exact .garbled hgarbled
  | full hclear hfull => exact .full hclear hfull
  | contested hclear hroom hcontested hrefused => exact .contested hclear hroom hcontested hrefused

/-- Any answer is as good as another. -/
theorem ok {a : α} {b : β} (h : Verdict hurdles refusal (.ok a)) : Verdict hurdles refusal (.ok b) :=
  h.map fun _ => b

theorem congr (h : Verdict hurdles refusal result) (hgarbled : hurdles.garbled ↔ others.garbled)
    (hfull : hurdles.full ↔ others.full) (hcontested : hurdles.contested ↔ others.contested) :
    Verdict others refusal result := by
  have hsame : hurdles = others := by
    cases hurdles
    cases others
    simp only [Hurdles.mk.injEq]
    exact ⟨propext hgarbled, propext hfull, propext hcontested⟩
  exact hsame ▸ h

end Verdict

namespace Database

/-- Whether values that make a row can be inserted. -/
theorem verdict_insert (h : db.Sound) (k : Kept c l) (hvalues : Proposal c l values)
    (hcomplete : ∀ col ∈ l.columns, col.name ∉ Record.names values → col.Admits col.default)
    (hprovides : db.Provides l values) {contested : Prop}
    (hcontested : ∀ row : Row, row.Stores l values → (l.Clashes row (db.rows l.name) ↔ contested)) :
    Verdict ⟨Garbled values, db.IsFull l.name, contested⟩ Failure.IsViolation (db.insert c values) := by
  have hl := k.mem_standard
  by_cases hgarbled : Garbled values
  · obtain ⟨fault, hassign⟩ := hvalues.assign_of_garbled k hgarbled
    rw [insert_unbound h k hvalues.columns hvalues.nodup hassign]
    exact .garbled hgarbled
  obtain ⟨a, hassign⟩ := hvalues.assign_of_clear k hgarbled
  by_cases hfull : db.IsFull l.name
  · rw [insert_of_full h k hvalues.columns hvalues.nodup hassign hfull]
    exact .full hgarbled hfull
  have hroom : db.greatestHandedOut l.name < Number.greatestWord :=
    Int.lt_iff_le_and_ne.2 ⟨(h.bounded l hl).2, hfull⟩
  -- the row that is put to the table, and what it stores
  generalize hrow : (⟨db.greatestHandedOut l.name + 1, a.newCells l⟩ : Row) = row
  have hwritten : ∀ col ∈ l.columns, Written values col col.default (row.cell col.name) :=
    fun col hcol => hrow ▸ written_newCells k hvalues.columns hassign _ hcol
  have hfits : row.Fits l := hvalues.fits (hrow ▸ names_newCells a l) hwritten
    (fun col hcol => keeps_default hl hcol) hcomplete
  have hstores := stores_of_written k hvalues.columns hvalues.nodup hwritten
  by_cases hclash : l.Clashes row (db.rows l.name)
  · obtain ⟨rule, hrefused⟩ := accept_of_clash h hl hfits hclash
    rw [insert_of_refused h k hvalues.columns hvalues.nodup hassign hroom (hrow ▸ hrefused)]
    exact .contested hgarbled hfull ((hcontested row hstores).1 hclash) ⟨rule, rfl⟩
  · have hnamed : ∀ link ∈ l.parents, ∃ p ∈ db.rows link.2, row.cell link.1 = .int p.id := by
      intro link hlink
      obtain ⟨p, hp, d, hd, hdenotes⟩ := hprovides link hlink
      exact ⟨p, hp, link_cell hl hlink hstores hd hdenotes⟩
    have hids : ∀ other ∈ db.rows l.name, other.id ≠ row.id := by
      intro other hother
      have := (h.numbered l hl other hother).2
      rw [← hrow]
      dsimp only
      omega
    have haccept := accept_of_distinct h hl hfits hids hnamed hclash
    rw [insert_of_accepted h k hvalues.columns hvalues.nodup hassign hroom (hrow ▸ haccept)]
    exact .free hgarbled hfull fun hcontest => hclash ((hcontested row hstores).2 hcontest)

/-- Whether values that name no rows can be written over those of a row. -/
theorem verdict_update (h : db.Sound) (k : Kept c l) (hvalues : Proposal c l values)
    (hunlinked : ∀ link ∈ l.parents, link.1 ∉ Record.names values) {id : Datum} {old : Row}
    (hold : old ∈ db.rows l.name) (hid : id.Denotes old.id) {contested : Prop}
    (hcontested : ∀ row : Row, (∀ col ∈ l.columns,
      Written values col (old.cell col.name) (row.cell col.name)) →
        (l.Clashes row ((db.rows l.name).filter (·.id != old.id)) ↔ contested)) :
    Verdict ⟨Garbled values, False, contested⟩ Failure.IsViolation (db.update c id values) := by
  have hl := k.mem_standard
  by_cases hgarbled : Garbled values
  · obtain ⟨fault, hassign⟩ := hvalues.assign_of_garbled k hgarbled
    rw [update_unbound h k hvalues.columns hvalues.nodup id hassign]
    exact .garbled hgarbled
  obtain ⟨a, hassign⟩ := hvalues.assign_of_clear k hgarbled
  have hbefore := h.fits l hl old hold
  generalize hrow : (⟨old.id, a.changedCells l old.cells⟩ : Row) = row
  have hwritten : ∀ col ∈ l.columns, Written values col (old.cell col.name) (row.cell col.name) :=
    fun col hcol => hrow ▸ written_changedCells k hvalues.columns hassign hbefore.names _ hcol
  have hfits : row.Fits l := hvalues.fits
    (hrow ▸ (names_changedCells a l old.cells).trans hbefore.names) hwritten hbefore.kept
    fun col hcol _ => ⟨hbefore.required col hcol, hbefore.checked col hcol⟩
  by_cases hclash : l.Clashes row ((db.rows l.name).filter (·.id != old.id))
  · obtain ⟨rule, hrefused⟩ := accept_of_clash h hl hfits hclash
    rw [update_of_refused h k hvalues.columns hvalues.nodup hassign hold hid (hrow ▸ hrefused)]
    exact .contested hgarbled not_false ((hcontested row hwritten).1 hclash) ⟨rule, rfl⟩
  · have hnamed : ∀ link ∈ l.parents, ∃ p ∈ db.rows link.2, row.cell link.1 = .int p.id := by
      intro link hlink
      obtain ⟨col, hcol, hname, _⟩ := link_column hl hlink
      obtain ⟨p, hp, hnames⟩ := h.named l hl link hlink old hold
      rcases hwritten col hcol with ⟨d, _, hd, _⟩ | ⟨_, hsame⟩
      · exact absurd (List.mem_map_of_mem hd) (hname ▸ hunlinked link hlink)
      · rw [hname] at hsame
        exact ⟨p, hp, hsame.trans hnames⟩
    have hids : ∀ other ∈ (db.rows l.name).filter (·.id != old.id), other.id ≠ row.id := by
      intro other hother
      rw [← hrow]
      simpa using (List.mem_filter.1 hother).2
    have haccept := accept_of_distinct h hl hfits hids hnamed hclash
    rw [update_of_accepted h k hvalues.columns hvalues.nodup hassign hold hid (hrow ▸ haccept)]
    exact .free hgarbled not_false fun hcontest => hclash ((hcontested row hwritten).2 hcontest)

end Database

end Store
end SchoolCatalog
