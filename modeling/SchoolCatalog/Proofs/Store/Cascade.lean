import SchoolCatalog.Proofs.Store.Writing

/-!
# Deleting from a sound database

Deleting a row takes with it every row that names it, every row that names one of these, and so on,
and no other row. `Goes` says so as an inductive definition; the walk over the tables that carries it
out goes from a table to the tables that name it, and stops after at most four of them.

Results:
1. `Goes.user`, `Goes.school`, `Goes.dependent`: why a row of each table goes.
2. `delete_spec`: deleting takes out exactly the rows that go with the one deleted.
-/

namespace SchoolCatalog.Store

variable {db : Database} {c : Collection} {l m : Layout} {name : String} {id : Int} {ids : List Int}

/-- The rows that go when the row with an identity is deleted from the table of a name: that row, and
each row that names one which goes. -/
inductive Goes (db : Database) (name : String) (id : Int) : Layout → Row → Prop
  | deleted {l : Layout} {row : Row} : l ∈ Layout.standard → l.name = name →
      row ∈ db.rows l.name → row.id = id → Goes db name id l row
  | names {l parent : Layout} {row named : Row} {column : String} : l ∈ Layout.standard →
      (column, parent.name) ∈ l.parents → row ∈ db.rows l.name → Goes db name id parent named →
      row.cell column = .int named.id → Goes db name id l row

theorem Goes.mem (h : Goes db name id l row) : l ∈ Layout.standard ∧ row ∈ db.rows l.name := by
  cases h with
  | deleted hl _ hrow _ => exact ⟨hl, hrow⟩
  | names hl _ hrow _ _ => exact ⟨hl, hrow⟩

theorem eq_schools {parent : Layout} (h : parent ∈ Layout.standard) (hname : "schools" = parent.name) :
    parent = .schools :=
  eq_of_name_eq h Kept.schools.mem_standard hname.symm

theorem eq_users {parent : Layout} (h : parent ∈ Layout.standard) (hname : "users" = parent.name) :
    parent = .users :=
  eq_of_name_eq h Kept.users.mem_standard hname.symm

/-- A user goes only by being deleted. -/
theorem Goes.user {row : Row} (h : Goes db name id .users row) : name = "users" ∧ row.id = id := by
  cases h with
  | deleted _ hname _ hid => exact ⟨hname.symm, hid⟩
  | names _ hlink _ _ _ => exact nomatch hlink

/-- A school goes by being deleted, or with its owner. -/
theorem Goes.school {row : Row} (h : Goes db name id .schools row) :
    (name = "schools" ∧ row.id = id) ∨ (name = "users" ∧ row.cell "user_id" = .int id) := by
  cases h with
  | deleted _ hname _ hid => exact .inl ⟨hname.symm, hid⟩
  | names _ hlink _ hnamed hcell =>
    obtain ⟨rfl, hparent⟩ := Prod.mk.inj (List.mem_singleton.1 hlink)
    obtain rfl := eq_users hnamed.mem.1 hparent.symm
    obtain ⟨hname, hid⟩ := hnamed.user
    exact .inr ⟨hname, hid ▸ hcell⟩

/-- A row that names a school and a user goes by being deleted, or with either of them. -/
theorem Goes.dependent {row : Row} (hl : l.parents = [("school_id", "schools"), ("user_id", "users")])
    (h : Goes db name id l row) :
    (l.name = name ∧ row.id = id) ∨
      (∃ school, Goes db name id .schools school ∧ row.cell "school_id" = .int school.id) ∨
      (name = "users" ∧ row.cell "user_id" = .int id) := by
  cases h with
  | deleted _ hname _ hid => exact .inl ⟨hname, hid⟩
  | names _ hlink _ hnamed hcell =>
    rw [hl, List.mem_cons, List.mem_singleton, Prod.mk.injEq, Prod.mk.injEq] at hlink
    rcases hlink with ⟨rfl, hparent⟩ | ⟨rfl, hparent⟩
    · obtain rfl := eq_schools hnamed.mem.1 hparent.symm
      exact .inr (.inl ⟨_, hnamed, hcell⟩)
    · obtain rfl := eq_users hnamed.mem.1 hparent.symm
      obtain ⟨hname, hid⟩ := hnamed.user
      exact .inr (.inr ⟨hname, hid ▸ hcell⟩)

namespace Database

/-! ## Taking out rows by identity -/

theorem pruned_pruned (db : Database) (p q : String → Row → Bool) :
    (db.pruned p).pruned q = db.pruned fun n r => p n r && q n r := by
  simp [pruned, List.filter_filter, Bool.and_comm]

theorem removeRows_eq (db : Database) (name : String) (ids : List Int) :
    db.removeRows name ids = db.pruned fun n r => !(n = name && ids.contains r.id) := by
  unfold removeRows pruned
  congr 1
  refine List.map_congr_left fun t _ => ?_
  by_cases h : t.layout.name = name
  · simp [h]
  · have hall : (t.rows.filter fun r => !(t.layout.name = name && ids.contains r.id)) = t.rows :=
      List.filter_eq_self.2 fun r _ => by simp [h]
    rw [if_neg h, hall]

theorem removeRows_nil (db : Database) (name : String) : db.removeRows name [] = db := by
  have hsame : (db.tables.map fun t =>
      if t.layout.name = name then { t with rows := t.rows.filter fun r => !([] : List Int).contains r.id }
      else t) = db.tables := by
    refine (List.map_congr_left fun t _ => ?_).trans (List.map_id _)
    have hall : (t.rows.filter fun r => !([] : List Int).contains r.id) = t.rows :=
      List.filter_eq_self.2 fun r _ => rfl
    rw [hall]
    split <;> rfl
  rw [removeRows, hsame]

theorem Standing.removeRows (h : db.Standing) (name : String) (ids : List Int) :
    (db.removeRows name ids).Standing := by
  rw [removeRows_eq]
  exact h.pruned _

theorem rows_removeRows (h : db.Standing) (name : String) (ids : List Int)
    (hm : m ∈ Layout.standard) :
    (db.removeRows name ids).rows m.name =
      if m.name = name then (db.rows m.name).filter fun r => !ids.contains r.id
      else db.rows m.name := by
  rw [removeRows_eq, rows_pruned h _ hm]
  split
  next hname => simp [hname]
  next hname => simp [hname]

/-- Rows listed by the tables that they are taken out of. -/
abbrev Removals := List (String × List Int)

def removeAll (db : Database) (removals : Removals) : Database :=
  removals.foldl (fun db (name, ids) => db.removeRows name ids) db

/-- Whether a row of the table of a name is listed. -/
def listed? (removals : Removals) (name : String) (row : Row) : Bool :=
  removals.any fun (n, ids) => name = n && ids.contains row.id

theorem listed?_iff {removals : Removals} {row : Row} :
    listed? removals name row = true ↔ ∃ ids, (name, ids) ∈ removals ∧ ids.contains row.id = true := by
  rw [listed?, List.any_eq_true]
  constructor
  · rintro ⟨⟨n, ids⟩, hmem, hlisted⟩
    simp only [Bool.and_eq_true, decide_eq_true_eq] at hlisted
    obtain ⟨rfl, hcontains⟩ := hlisted
    exact ⟨ids, hmem, hcontains⟩
  · rintro ⟨ids, hmem, hcontains⟩
    refine ⟨(name, ids), hmem, ?_⟩
    simp only [Bool.and_eq_true, decide_eq_true_eq]
    exact ⟨trivial, hcontains⟩

theorem removeAll_eq (db : Database) (removals : Removals) :
    db.removeAll removals = db.pruned fun n r => !listed? removals n r := by
  induction removals generalizing db with
  | nil =>
    have hall (t : Table) : ({ t with rows := t.rows.filter fun _ => true } : Table) = t := by
      rw [List.filter_eq_self.2 fun _ _ => rfl]
    have hsame : (db.tables.map fun t => { t with rows := t.rows.filter fun _ => true }) = db.tables :=
      (List.map_congr_left fun t _ => hall t).trans (List.map_id _)
    show db = { db with tables := db.tables.map fun t => { t with rows := t.rows.filter fun _ => true } }
    rw [hsame]
  | cons entry rest ih =>
    rw [removeAll, List.foldl_cons]
    refine (ih _).trans ?_
    dsimp only
    rw [removeRows_eq, pruned_pruned]
    simp only [listed?, List.any_cons, Bool.not_or]

/-! ## The walk over the tables -/

/-- The identities of the rows of a table that name given rows of another one. -/
def namers (db : Database) (l : Layout) (name : String) (ids : List Int) : List Int :=
  ((db.rows l.name).filter (namesAny l name ids)).map (·.id)

theorem dependents_eq (h : db.Standing) (name : String) (ids : List Int) :
    db.dependents name ids = Layout.standard.map fun l => (l.name, db.namers l name ids) := by
  rw [dependents, h.tables_eq, List.map_map]
  rfl

theorem namers_of_unlinked (db : Database) (h : ∀ link ∈ l.parents, link.2 ≠ name)
    (ids : List Int) : db.namers l name ids = [] := by
  have hnone : (db.rows l.name).filter (namesAny l name ids) = [] := by
    rw [List.filter_eq_nil_iff]
    intro row _
    rw [namesAny, Bool.not_eq_true, List.any_eq_false]
    intro link hlink
    simp [h link hlink]
  rw [namers, hnone]
  rfl

theorem namers_nil (db : Database) (l : Layout) (name : String) : db.namers l name [] = [] := by
  have hnone : (db.rows l.name).filter (namesAny l name []) = [] := by
    rw [List.filter_eq_nil_iff]
    intro row _
    simp [namesAny]
  rw [namers, hnone]
  rfl

/-- Nothing follows the rows of a table that no table names. -/
theorem cascade_leaf (h : db.Standing) (hleaf : ∀ l ∈ Layout.standard, ∀ link ∈ l.parents,
    link.2 ≠ name) (depth : Nat) (ids : List Int) :
    cascade depth db name ids = db.removeRows name ids := by
  cases depth with
  | zero => rfl
  | succ depth =>
    rw [cascade, dependents_eq h]
    have hempty : (Layout.standard.map fun l => (l.name, db.namers l name ids)) =
        Layout.standard.map fun l => (l.name, ([] : List Int)) :=
      List.map_congr_left fun l hl => by rw [namers_of_unlinked db (hleaf l hl)]
    rw [hempty]
    rfl

theorem courses_leaf : ∀ l ∈ Layout.standard, ∀ link ∈ l.parents, link.2 ≠ "courses" := by
  decide

theorem names_school : ∀ l ∈ Layout.standard, ∀ link ∈ l.parents, link.2 = "schools" →
    l.name = "courses" ∨ l.name = "reviews" := by
  decide

theorem reviews_leaf : ∀ l ∈ Layout.standard, ∀ link ∈ l.parents, link.2 ≠ "reviews" := by
  decide

theorem cascade_step_leaf (h : db.Standing) (hleaf : ∀ l ∈ Layout.standard, ∀ link ∈ l.parents,
    link.2 ≠ name) (depth : Nat) (ids : List Int) :
    (if ids.isEmpty then db else cascade depth db name ids) = db.removeRows name ids := by
  split
  next hempty =>
    rw [List.isEmpty_iff.1 hempty, removeRows_nil]
  next => exact cascade_leaf h hleaf depth ids

/-- With schools go their courses and reviews. -/
theorem cascade_schools (h : db.Standing) (depth : Nat) (ids : List Int) :
    cascade (depth + 1) db "schools" ids =
      db.removeAll [("schools", ids), ("courses", db.namers .courses "schools" ids),
        ("reviews", db.namers .reviews "schools" ids)] := by
  have husers : db.namers .users "schools" ids = [] :=
    namers_of_unlinked db (by decide) ids
  have hschools : db.namers .schools "schools" ids = [] :=
    namers_of_unlinked db (by decide) ids
  have hfold : db.dependents "schools" ids = [("users", []), ("schools", []),
      ("courses", db.namers .courses "schools" ids), ("reviews", db.namers .reviews "schools" ids)] := by
    rw [dependents_eq h, Layout.standard, List.map_cons, List.map_cons, List.map_cons, List.map_cons,
      husers, hschools]
    rfl
  have hcourses := h.removeRows "schools" ids
  rw [cascade, hfold, List.foldl_cons, List.foldl_cons, List.foldl_cons, List.foldl_cons,
    List.foldl_nil]
  dsimp only
  rw [if_pos List.isEmpty_nil, if_pos List.isEmpty_nil, cascade_step_leaf hcourses courses_leaf,
    cascade_step_leaf (hcourses.removeRows _ _) reviews_leaf]
  rfl

/-- With users go their schools with all that belongs to these, and their own courses and reviews. -/
theorem cascade_users (h : db.Standing) (depth : Nat) (ids : List Int) :
    let own := db.namers .schools "users" ids
    cascade (depth + 2) db "users" ids =
      db.removeAll [("users", ids), ("schools", own), ("courses", db.namers .courses "schools" own),
        ("reviews", db.namers .reviews "schools" own), ("courses", db.namers .courses "users" ids),
        ("reviews", db.namers .reviews "users" ids)] := by
  intro own
  have husers : db.namers .users "users" ids = [] := namers_of_unlinked db (by decide) ids
  have hfold : db.dependents "users" ids = [("users", []), ("schools", own),
      ("courses", db.namers .courses "users" ids), ("reviews", db.namers .reviews "users" ids)] := by
    rw [dependents_eq h, Layout.standard, List.map_cons, List.map_cons, List.map_cons, List.map_cons,
      husers]
    rfl
  have hfirst := h.removeRows "users" ids
  -- the rows that name the schools are looked up after the users are taken out
  have hsame {m : Layout} (hm : m ∈ Layout.standard) (hne : m.name ≠ "users") :
      (db.removeRows "users" ids).namers m "schools" own = db.namers m "schools" own := by
    rw [namers, rows_removeRows h _ _ hm, if_neg hne, namers]
  have hschools : (if own.isEmpty then db.removeRows "users" ids
      else cascade (depth + 1) (db.removeRows "users" ids) "schools" own) =
      (((db.removeRows "users" ids).removeRows "schools" own).removeRows
        "courses" (db.namers .courses "schools" own)).removeRows
        "reviews" (db.namers .reviews "schools" own) := by
    split
    next hempty =>
      rw [List.isEmpty_iff.1 hempty, namers_nil, namers_nil, removeRows_nil, removeRows_nil,
        removeRows_nil]
    next =>
      rw [cascade_schools hfirst, hsame Kept.courses.mem_standard (by decide),
        hsame Kept.reviews.mem_standard (by decide)]
      rfl
  have hsecond := ((hfirst.removeRows "schools" own).removeRows "courses"
    (db.namers .courses "schools" own)).removeRows "reviews" (db.namers .reviews "schools" own)
  rw [cascade, hfold, List.foldl_cons, List.foldl_cons, List.foldl_cons, List.foldl_cons,
    List.foldl_nil]
  dsimp only
  rw [if_pos List.isEmpty_nil, hschools, cascade_step_leaf hsecond courses_leaf,
    cascade_step_leaf (hsecond.removeRows _ _) reviews_leaf]
  rfl

/-! ## What goes -/

/-- The rows whose identities are listed as naming given rows are those that name one of them. -/
theorem contains_namers (h : db.Sound) (hm : m ∈ Layout.standard)
    (hids : ∀ i ∈ ids, Cell.IsIdentity i) {row : Row} (hrow : row ∈ db.rows m.name) :
    (db.namers m name ids).contains row.id = true ↔
      ∃ column, (column, name) ∈ m.parents ∧ ∃ i ∈ ids, row.cell column = .int i := by
  have hnames : namesAny m name ids row = true ↔
      ∃ column, (column, name) ∈ m.parents ∧ ∃ i ∈ ids, row.cell column = .int i := by
    rw [namesAny, List.any_eq_true]
    constructor
    · rintro ⟨⟨column, parent⟩, hlink, hany⟩
      simp only [Bool.and_eq_true, decide_eq_true_eq, List.any_eq_true] at hany
      obtain ⟨rfl, i, hi, hcompare⟩ := hany
      exact ⟨column, hlink, i, hi, (h.link_compare hm hlink hrow (hids i hi)).1 hcompare⟩
    · rintro ⟨column, hlink, i, hi, hcell⟩
      refine ⟨(column, name), hlink, ?_⟩
      simp only [Bool.and_eq_true, decide_eq_true_eq, List.any_eq_true]
      exact ⟨trivial, i, hi, (h.link_compare hm hlink hrow (hids i hi)).2 hcell⟩
  -- a listed identity is that of this row alone
  rw [← hnames, List.contains_iff_mem, namers, List.mem_map]
  constructor
  · rintro ⟨other, hother, hid⟩
    obtain ⟨hother, hnamed⟩ := List.mem_filter.1 hother
    rwa [← h.eq_of_id hm hother hrow hid]
  · exact fun hnamed => ⟨row, List.mem_filter.2 ⟨hrow, hnamed⟩, rfl⟩

/-- All the identities listed are those of rows of a table that go. -/
def Going (db : Database) (name : String) (id : Int) (l : Layout) (ids : List Int) : Prop :=
  ∀ i ∈ ids, ∃ row : Row, row.id = i ∧ Goes db name id l row

theorem going_self (hl : l ∈ Layout.standard) {old : Row} (hold : old ∈ db.rows l.name) :
    Going db l.name old.id l [old.id] :=
  fun _ hi => ⟨old, (List.mem_singleton.1 hi).symm, .deleted hl rfl hold rfl⟩

theorem Going.isIdentity (h : db.Sound) (hgoing : Going db name id l ids) :
    ∀ i ∈ ids, Cell.IsIdentity i := by
  intro i hi
  obtain ⟨row, rfl, hgoes⟩ := hgoing i hi
  exact h.isIdentity hgoes.mem.1 hgoes.mem.2

theorem Going.goes (h : db.Sound) (hgoing : Going db name id l ids) {row : Row}
    (hrow : row ∈ db.rows l.name) (hcontains : ids.contains row.id = true) :
    Goes db name id l row := by
  obtain ⟨other, hid, hgoes⟩ := hgoing row.id (List.contains_iff_mem.1 hcontains)
  rwa [← h.eq_of_id hgoes.mem.1 hgoes.mem.2 hrow hid]

/-- The namers of rows that go, go too. -/
theorem Going.namers (h : db.Sound) (hgoing : Going db name id l ids) (hm : m ∈ Layout.standard) :
    Going db name id m (db.namers m l.name ids) := by
  intro i hi
  obtain ⟨row, hrow, rfl⟩ := List.mem_map.1 hi
  have hrow := (List.mem_filter.1 hrow).1
  obtain ⟨column, hlink, i, hi, hcell⟩ :=
    (contains_namers h hm (hgoing.isIdentity h) hrow).1 (List.contains_iff_mem.2 hi)
  obtain ⟨named, rfl, hgoes⟩ := hgoing i hi
  exact ⟨row, rfl, .names hm hlink hrow hgoes hcell⟩

/-- What deleting one row has taken out: a database in which exactly the rows stay that do not go with
that row. -/
def Deleted (db : Database) (name : String) (id : Int) (after : Database) : Prop :=
  ∃ gone : String → Row → Bool, after = db.pruned (fun n r => !gone n r) ∧
    ∀ m ∈ Layout.standard, ∀ row ∈ db.rows m.name,
      gone m.name row = true ↔ Goes db name id m row

/-- Removals that begin with one row, list only rows that go with it, and with each list of rows list
their namers in every table. -/
structure Complete (db : Database) (name : String) (id : Int) (removals : Removals) : Prop where
  self : (name, [id]) ∈ removals
  going : ∀ n ids, (n, ids) ∈ removals → ∃ l ∈ Layout.standard, l.name = n ∧ Going db name id l ids
  closed : ∀ n ids, (n, ids) ∈ removals → ∀ m ∈ Layout.standard, ∀ link ∈ m.parents, link.2 = n →
    (m.name, db.namers m n ids) ∈ removals

/-- Taking out the rows that such removals list takes out exactly those that go. -/
theorem Complete.deleted (h : db.Sound) {removals : Removals} (hf : Complete db name id removals) :
    Deleted db name id (db.removeAll removals) := by
  refine ⟨listed? removals, removeAll_eq db removals, fun m hm row hrow => ⟨?_, ?_⟩⟩
  · intro hlisted
    obtain ⟨ids, hmem, hcontains⟩ := listed?_iff.1 hlisted
    obtain ⟨l, hl, hname, hgoing⟩ := hf.going _ _ hmem
    obtain rfl := eq_of_name_eq hl hm hname
    exact hgoing.goes h hrow hcontains
  · intro hgoes
    -- along the rows that lead from the deleted one to this one
    induction hgoes with
    | deleted hl hname hrow hid =>
      exact listed?_iff.2 ⟨[id], hname ▸ hf.self, by simp [hid]⟩
    | @names l parent row named column hl hlink hrow hgoes hcell ih =>
      obtain ⟨hparent, hnamed⟩ := hgoes.mem
      obtain ⟨ids, hmem, hcontains⟩ := listed?_iff.1 (ih hparent hnamed)
      obtain ⟨other, hother, hname, hgoing⟩ := hf.going _ _ hmem
      refine listed?_iff.2 ⟨_, hf.closed _ _ hmem l hl _ hlink rfl, ?_⟩
      exact (contains_namers h hl (hgoing.isIdentity h) hrow).2
        ⟨column, hlink, named.id, List.contains_iff_mem.1 hcontains, hcell⟩

theorem deleted_leaf (h : db.Sound) (hl : l ∈ Layout.standard)
    (hleaf : ∀ m ∈ Layout.standard, ∀ link ∈ m.parents, link.2 ≠ l.name) (depth : Nat) {old : Row}
    (hold : old ∈ db.rows l.name) :
    Deleted db l.name old.id (cascade depth db l.name [old.id]) := by
  rw [cascade_leaf h.standing hleaf]
  have hf : Complete db l.name old.id [(l.name, [old.id])] := by
    refine ⟨List.mem_singleton_self _, fun n ids hmem => ?_, fun n ids hmem m hm link hlink hn => ?_⟩
    · obtain ⟨rfl, rfl⟩ := Prod.mk.inj (List.mem_singleton.1 hmem)
      exact ⟨l, hl, rfl, going_self hl hold⟩
    · obtain ⟨rfl, rfl⟩ := Prod.mk.inj (List.mem_singleton.1 hmem)
      exact absurd hn (hleaf m hm link hlink)
  exact hf.deleted h

theorem deleted_schools (h : db.Sound) (depth : Nat) {old : Row} (hold : old ∈ db.rows "schools") :
    Deleted db "schools" old.id (cascade (depth + 1) db "schools" [old.id]) := by
  rw [cascade_schools h.standing]
  refine Complete.deleted h ⟨List.mem_cons_self .., fun n ids hmem => ?_,
    fun n ids hmem m hm link hlink hn => ?_⟩
  · have hself := going_self Kept.schools.mem_standard hold
    simp only [List.mem_cons, Prod.mk.injEq, List.not_mem_nil, or_false] at hmem
    rcases hmem with ⟨rfl, rfl⟩ | ⟨rfl, rfl⟩ | ⟨rfl, rfl⟩
    · exact ⟨.schools, Kept.schools.mem_standard, rfl, hself⟩
    · exact ⟨.courses, Kept.courses.mem_standard, rfl, hself.namers h Kept.courses.mem_standard⟩
    · exact ⟨.reviews, Kept.reviews.mem_standard, rfl, hself.namers h Kept.reviews.mem_standard⟩
  · simp only [List.mem_cons, Prod.mk.injEq, List.not_mem_nil, or_false] at hmem
    rcases hmem with ⟨rfl, rfl⟩ | ⟨rfl, rfl⟩ | ⟨rfl, rfl⟩
    · rcases names_school m hm link hlink hn with hname | hname
      · obtain rfl := eq_of_name_eq hm Kept.courses.mem_standard hname
        simp [Layout.courses]
      · obtain rfl := eq_of_name_eq hm Kept.reviews.mem_standard hname
        simp [Layout.reviews]
    · exact absurd hn (courses_leaf m hm link hlink)
    · exact absurd hn (reviews_leaf m hm link hlink)

theorem names_user : ∀ l ∈ Layout.standard, ∀ link ∈ l.parents, link.2 = "users" →
    l.name = "schools" ∨ l.name = "courses" ∨ l.name = "reviews" := by
  decide

theorem deleted_users (h : db.Sound) (depth : Nat) {old : Row} (hold : old ∈ db.rows "users") :
    Deleted db "users" old.id (cascade (depth + 2) db "users" [old.id]) := by
  rw [cascade_users h.standing]
  refine Complete.deleted h ⟨List.mem_cons_self .., fun n ids hmem => ?_,
    fun n ids hmem m hm link hlink hn => ?_⟩
  · have hself := going_self Kept.users.mem_standard hold
    have hown := hself.namers h Kept.schools.mem_standard
    simp only [List.mem_cons, Prod.mk.injEq, List.not_mem_nil, or_false] at hmem
    rcases hmem with ⟨rfl, rfl⟩ | ⟨rfl, rfl⟩ | ⟨rfl, rfl⟩ | ⟨rfl, rfl⟩ | ⟨rfl, rfl⟩ | ⟨rfl, rfl⟩
    · exact ⟨.users, Kept.users.mem_standard, rfl, hself⟩
    · exact ⟨.schools, Kept.schools.mem_standard, rfl, hown⟩
    · exact ⟨.courses, Kept.courses.mem_standard, rfl, hown.namers h Kept.courses.mem_standard⟩
    · exact ⟨.reviews, Kept.reviews.mem_standard, rfl, hown.namers h Kept.reviews.mem_standard⟩
    · exact ⟨.courses, Kept.courses.mem_standard, rfl, hself.namers h Kept.courses.mem_standard⟩
    · exact ⟨.reviews, Kept.reviews.mem_standard, rfl, hself.namers h Kept.reviews.mem_standard⟩
  · -- only users and schools are named
    have hnamed : (n = "users" ∧ ids = [old.id]) ∨
        (n = "schools" ∧ ids = db.namers .schools "users" [old.id]) := by
      subst hn
      simpa only [List.mem_cons, Prod.mk.injEq, List.not_mem_nil, or_false, false_and,
        courses_leaf m hm link hlink, reviews_leaf m hm link hlink] using hmem
    rcases hnamed with ⟨rfl, rfl⟩ | ⟨rfl, rfl⟩
    · rcases names_user m hm link hlink hn with hname | hname | hname
      · obtain rfl := eq_of_name_eq hm Kept.schools.mem_standard hname
        simp [Layout.schools]
      · obtain rfl := eq_of_name_eq hm Kept.courses.mem_standard hname
        simp [Layout.courses]
      · obtain rfl := eq_of_name_eq hm Kept.reviews.mem_standard hname
        simp [Layout.reviews]
    · rcases names_school m hm link hlink hn with hname | hname
      · obtain rfl := eq_of_name_eq hm Kept.courses.mem_standard hname
        simp [Layout.courses]
      · obtain rfl := eq_of_name_eq hm Kept.reviews.mem_standard hname
        simp [Layout.reviews]

/-- Deleting a row that is there takes out exactly the rows that go with it. -/
theorem deleted_cascade (h : db.Sound) (k : Kept c l) {old : Row} (hold : old ∈ db.rows l.name) :
    Deleted db l.name old.id (cascade db.tables.length db l.name [old.id]) := by
  have hlength : db.tables.length = 4 := by
    rw [h.standing.tables_eq, List.length_map]
    rfl
  rw [hlength]
  cases k with
  | users => exact deleted_users h 2 hold
  | schools => exact deleted_schools h 3 hold
  | courses => exact deleted_leaf h Kept.courses.mem_standard courses_leaf 4 hold
  | reviews => exact deleted_leaf h Kept.reviews.mem_standard reviews_leaf 4 hold

/-- The rows that are left are those that were there and do not go. -/
theorem Deleted.mem_iff (h : db.Sound) {after : Database} (hdeleted : Deleted db name id after)
    (hm : m ∈ Layout.standard) {row : Row} :
    row ∈ after.rows m.name ↔ row ∈ db.rows m.name ∧ ¬ Goes db name id m row := by
  obtain ⟨gone, rfl, hgone⟩ := hdeleted
  rw [rows_pruned h.standing _ hm, List.mem_filter]
  refine and_congr_right fun hrow => ?_
  rw [← hgone m hm row hrow, Bool.not_eq_true', Bool.not_eq_true]

theorem Deleted.handedOut_eq {after : Database} (hdeleted : Deleted db name id after) (other : String) :
    after.greatestHandedOut other = db.greatestHandedOut other := by
  obtain ⟨gone, rfl, _⟩ := hdeleted
  rfl

/-- Deleting keeps a database sound. -/
theorem Deleted.sound (h : db.Sound) {after : Database} (hdeleted : Deleted db name id after) :
    after.Sound := by
  obtain ⟨gone, rfl, hgone⟩ := hdeleted
  refine h.pruned fun m hm link hlink r hr hkeep p hp hcell => ?_
  obtain ⟨parent, hparent, hname⟩ := List.mem_map.1 (parent_standard hm hlink)
  have hname' : (link.1, parent.name) ∈ m.parents := hname ▸ hlink
  rw [← hname] at hp ⊢
  simp only [Bool.not_eq_true', ← Bool.not_eq_true] at hkeep ⊢
  intro hgoes
  exact hkeep ((hgone m hm r hr).2
    (.names hm hname' hr ((hgone parent hparent p hp).1 hgoes) hcell))

/-- A deletion that succeeds and finds its row takes out what goes with it; one that finds none
changes nothing. -/
theorem delete_spec (h : db.Sound) (k : Kept c l) {id : Datum} {after : Database} {found : Bool}
    (hdelete : db.delete c id = .ok (after, found)) :
    (found = false ∧ after = db ∧ ∀ row ∈ db.rows l.name, ¬ id.Denotes row.id) ∨
      (found = true ∧ ∃ old ∈ db.rows l.name, id.Denotes old.id ∧
        Deleted db l.name old.id after ∧ after.Sound) := by
  unfold delete at hdelete
  obtain ⟨_, _, hdelete⟩ := bind_eq_ok.1 hdelete
  rw [h.standing.table_eq k] at hdelete
  obtain ⟨_, htable, hdelete⟩ := bind_eq_ok.1 hdelete
  cases htable
  obtain ⟨key, hkey, hdelete⟩ := bind_eq_ok.1 hdelete
  cases hfind : (db.rows l.name).find? (hasId key) with
  | none =>
    rw [hfind] at hdelete
    cases hdelete
    refine .inl ⟨rfl, rfl, fun row hrow hdenotes => ?_⟩
    rw [(find?_hasId h k.mem_standard hkey hrow).2 hdenotes] at hfind
    exact nomatch hfind
  | some old =>
    rw [hfind] at hdelete
    cases hdelete
    have hold := List.mem_of_find?_eq_some hfind
    have hdeleted := deleted_cascade h k hold
    exact .inr ⟨rfl, old, hold, (find?_hasId h k.mem_standard hkey hold).1 hfind, hdeleted,
      hdeleted.sound h⟩

end Database

end SchoolCatalog.Store
