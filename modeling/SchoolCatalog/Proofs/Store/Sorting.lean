import SchoolCatalog.Proofs.Store.Finding

/-!
# Sorted rows

The order in which a selection puts rows. The first key that tells two rows apart decides, the other
way round if it is descending; the identity decides where no key does. On rows whose cells are proper
this is a strict order under which no two rows tie, so that a set of rows has one sorted list.

Results:
1. `sortRows_precedes`: in a sorted list every row precedes those after it.
2. `eq_of_precedes`: a list of rows in which each precedes those after it is known by its rows.
3. `filter_sortRows`: rows may be left out before they are sorted or after.
-/

namespace SchoolCatalog.Store

variable {c : Collection} {l : Layout} {keys : List RowKey} {sort : List SortKey} {rows : List Row}
  {x y : Row}

/-- One row stands before another in an order: the first key that tells them apart decides, and their
identities do where no key does. -/
def Precedes (x y : Row) : List SortKey → Prop
  | [] => x.id < y.id
  | key :: rest =>
    let order := (x.read (fieldReference key.field)).compare (y.read (fieldReference key.field))
    order = (if key.descending then .gt else .lt) ∨ order = .eq ∧ Precedes x y rest

instance decidablePrecedes (x y : Row) : (sort : List SortKey) → Decidable (Precedes x y sort)
  | [] => inferInstanceAs (Decidable (x.id < y.id))
  | _ :: rest =>
    have := decidablePrecedes x y rest
    inferInstanceAs (Decidable (_ ∨ _ ∧ _))

/-! ## Rows whose cells are proper -/

/-- Whatever is read of the row is a proper cell. -/
def Row.Proper (row : Row) : Prop := ∀ reference, (row.read reference).Proper

theorem Database.Sound.row_proper {db : Database} (h : db.Sound) (hl : l ∈ Layout.standard)
    {row : Row} (hrow : row ∈ db.rows l.name) : row.Proper := by
  intro reference
  have hfits := h.fits l hl row hrow
  cases reference with
  | identity => exact (h.isIdentity hl hrow).proper
  | literal text => trivial
  | column name =>
    -- a name that is no column of the table reads as null
    by_cases hname : name ∈ row.cells.map (·.1)
    · rw [hfits.names] at hname
      obtain ⟨col, hcol, rfl⟩ := List.mem_map.1 hname
      exact hfits.proper hcol
    · have habsent : row.cells.lookup name = none := by
        rw [List.lookup_eq_none_iff]
        intro cell hcell
        exact bne_iff_ne.2 fun hsame => hname (List.mem_map.2 ⟨cell, hcell, hsame.symm⟩)
      show ((row.cells.lookup name).getD .null).Proper
      rw [habsent]
      trivial

/-! ## Comparing rows -/

theorem keyCompare_swap (a b : Cell) : b.keyCompare a = (a.keyCompare b).swap :=
  Std.OrientedCmp.eq_swap

theorem keyCompare_trans {a b d : Cell} (hab : (a.keyCompare b).isLE = true)
    (hbd : (b.keyCompare d).isLE = true) : (a.keyCompare d).isLE = true :=
  Std.TransCmp.isLE_trans hab hbd

/-- The order of rows by the key of one cell. -/
def cellCompare (key : RowKey) (x y : Row) : Ordering :=
  if key.descending then (y.read key.column).keyCompare (x.read key.column)
  else (x.read key.column).keyCompare (y.read key.column)

instance transCmp_cellCompare (key : RowKey) : Std.TransCmp (cellCompare key) where
  eq_swap := by
    intro x y
    unfold cellCompare
    cases key.descending <;> exact keyCompare_swap _ _
  isLE_trans := by
    intro x y z
    unfold cellCompare
    cases key.descending with
    | true =>
      intro hxy hyz
      exact keyCompare_trans hyz hxy
    | false => exact keyCompare_trans

/-- The order of rows by the keys of several cells. -/
def rowCompare : List RowKey → Row → Row → Ordering
  | [] => fun _ _ => .eq
  | key :: rest => compareLex (cellCompare key) (rowCompare rest)

instance transCmp_rowCompare : (keys : List RowKey) → Std.TransCmp (rowCompare keys)
  | [] =>
    { eq_swap := rfl
      isLE_trans := fun _ _ => rfl }
  | key :: rest =>
    have := transCmp_rowCompare rest
    inferInstanceAs (Std.TransCmp (compareLex (cellCompare key) (rowCompare rest)))

theorem rowCompare_trans (x y z : Row) (hxy : (rowCompare keys x y).isLE = true)
    (hyz : (rowCompare keys y z).isLE = true) : (rowCompare keys x z).isLE = true :=
  Std.TransCmp.isLE_trans hxy hyz

theorem rowCompare_swap (x y : Row) : rowCompare keys y x = (rowCompare keys x y).swap :=
  Std.OrientedCmp.eq_swap

theorem rowCompare_total (x y : Row) :
    ((rowCompare keys x y).isLE || (rowCompare keys y x).isLE) = true := by
  rw [rowCompare_swap x y]
  cases rowCompare keys x y <;> rfl

/-- Rows with proper cells are ordered like the keys of their cells. -/
theorem compareByAll_eq (hx : x.Proper) (hy : y.Proper) (keys : List RowKey) :
    compareByAll keys x y = rowCompare keys x y := by
  induction keys with
  | nil => rfl
  | cons key rest ih =>
    have hcell : compareBy key x y = cellCompare key x y := by
      unfold compareBy cellCompare
      rw [Cell.compare_eq_keyCompare (hx _) (hy _)]
      cases key.descending with
      | true => exact (keyCompare_swap _ _).symm
      | false => rfl
    rw [compareByAll, ih, hcell]
    rfl

theorem compareByAll_swap (hx : x.Proper) (hy : y.Proper) (keys : List RowKey) :
    compareByAll keys y x = (compareByAll keys x y).swap := by
  rw [compareByAll_eq hx hy, compareByAll_eq hy hx]
  exact rowCompare_swap x y

theorem compareByAll_append (front back : List RowKey) :
    compareByAll (front ++ back) x y = (compareByAll front x y).then (compareByAll back x y) := by
  induction front with
  | nil => rfl
  | cons key rest ih => rw [List.cons_append, compareByAll, compareByAll, ih, Ordering.then_assoc]

theorem compareByAll_eq_eq :
    compareByAll keys x y = .eq ↔ ∀ key ∈ keys, compareBy key x y = .eq := by
  induction keys with
  | nil => simp [compareByAll]
  | cons key rest ih => rw [compareByAll, Ordering.then_eq_eq, ih, List.forall_mem_cons]

/-- The identity breaks the ties of every order. -/
theorem compareByAll_rowKeys (hsort : ∀ key ∈ sort, c.hasField key.field = true) :
    compareByAll (rowKeys c sort) x y =
      (compareByAll (sort.map fun key => ⟨fieldReference key.field, key.descending⟩) x y).then
        (Ord.compare x.id y.id) := by
  rw [rowKeys, Collection.orderKeys, List.filter_eq_self.2 hsort, List.map_append,
    compareByAll_append]
  cases hany : sort.any fun key => key.field = "id" with
  | false =>
    show Ordering.then _ ((Ord.compare x.id y.id).then .eq) = _
    rw [Ordering.then_eq]
  | true =>
    -- the identity is one of the keys, so that rows that tie have one identity
    obtain ⟨key, hkey, hname⟩ := List.any_eq_true.1 hany
    have hname : key.field = "id" := by simpa using hname
    show Ordering.then _ .eq = _
    rw [Ordering.then_eq]
    generalize hfront : compareByAll (List.map _ sort) x y = order
    cases order with
    | lt => rfl
    | gt => rfl
    | eq =>
      have htie := compareByAll_eq_eq.1 hfront _ (List.mem_map.2 ⟨key, hkey, rfl⟩)
      rw [hname] at htie
      have hcompare : Ord.compare x.id y.id = .eq := by
        unfold compareBy at htie
        cases hdown : key.descending with
        | true =>
          rw [hdown] at htie
          exact Ordering.swap_eq_eq.1 htie
        | false =>
          rw [hdown] at htie
          exact htie
      exact hcompare.symm

/-- Comparing rows by the keys of an order tells which precedes the other. -/
theorem precedes_iff (hsort : ∀ key ∈ sort, c.hasField key.field = true) :
    compareByAll (rowKeys c sort) x y = .lt ↔ Precedes x y sort := by
  rw [compareByAll_rowKeys hsort]
  clear hsort
  induction sort with
  | nil => exact Int.compare_eq_lt
  | cons key rest ih =>
    rw [List.map_cons, compareByAll, Ordering.then_assoc, Ordering.then_eq_lt, ih, Precedes, compareBy]
    cases key.descending with
    | true => simp
    | false => simp

theorem compareByAll_ne_eq (hsort : ∀ key ∈ sort, c.hasField key.field = true) (hid : x.id ≠ y.id) :
    compareByAll (rowKeys c sort) x y ≠ .eq := by
  rw [compareByAll_rowKeys hsort]
  intro htie
  exact hid (Int.compare_eq_eq.1 (Ordering.then_eq_eq.1 htie).2)

/-! ## Sorted lists -/

theorem sortRows_perm (keys : List RowKey) (rows : List Row) : (sortRows keys rows).Perm rows :=
  List.mergeSort_perm ..

/-- Rows with proper cells are sorted by the keys of their cells. -/
theorem sortRows_eq (hrows : ∀ row ∈ rows, row.Proper) :
    sortRows keys rows = rows.mergeSort fun x y => (rowCompare keys x y).isLE := by
  have hmap := List.map_mergeSort (f := id) (r := fun x y => compareByAll keys x y ≠ .gt)
    (s := fun x y => (rowCompare keys x y).isLE) (l := rows) fun x hx y hy => by
      rw [compareByAll_eq (hrows x hx) (hrows y hy)]
      show decide (rowCompare keys x y ≠ .gt) = (rowCompare keys x y).isLE
      cases rowCompare keys x y <;> rfl
  rwa [List.map_id, List.map_id] at hmap

/-- In a sorted list every row precedes those after it. -/
theorem sortRows_precedes (hrows : ∀ row ∈ rows, row.Proper) (hids : (rows.map (·.id)).Nodup)
    (hsort : ∀ key ∈ sort, c.hasField key.field = true) :
    (sortRows (rowKeys c sort) rows).Pairwise (Precedes · · sort) := by
  have hperm := sortRows_perm (rowKeys c sort) rows
  have hsorted : (sortRows (rowKeys c sort) rows).Pairwise
      fun x y => (rowCompare (rowKeys c sort) x y).isLE := by
    rw [sortRows_eq hrows]
    exact List.pairwise_mergeSort rowCompare_trans rowCompare_total rows
  have hdiffer : (sortRows (rowKeys c sort) rows).Pairwise fun x y => x.id ≠ y.id := by
    rw [← List.pairwise_map (R := (· ≠ ·))]
    exact ((hperm.map _).nodup_iff).2 hids
  refine (hsorted.and hdiffer).imp_of_mem fun {x y} hx hy hboth => ?_
  obtain ⟨hle, hid⟩ := hboth
  have hne := compareByAll_ne_eq hsort hid
  rw [← precedes_iff hsort]
  rw [← compareByAll_eq (hrows x (hperm.mem_iff.1 hx)) (hrows y (hperm.mem_iff.1 hy))] at hle
  generalize compareByAll (rowKeys c sort) x y = order at hle hne
  cases order with
  | lt => rfl
  | eq => exact absurd rfl hne
  | gt => exact nomatch hle

theorem Precedes.asymm (hx : x.Proper) (hy : y.Proper)
    (hsort : ∀ key ∈ sort, c.hasField key.field = true) (hxy : Precedes x y sort) :
    ¬ Precedes y x sort := by
  intro hyx
  rw [← precedes_iff hsort] at hxy hyx
  rw [compareByAll_swap hx hy, hxy] at hyx
  exact nomatch hyx

/-- A list of rows in which each precedes those after it is known by its rows. -/
theorem eq_of_precedes {xs ys : List Row} (hrows : ∀ row ∈ xs, row.Proper)
    (hsort : ∀ key ∈ sort, c.hasField key.field = true) (hperm : xs.Perm ys)
    (hxs : xs.Pairwise (Precedes · · sort)) (hys : ys.Pairwise (Precedes · · sort)) : xs = ys := by
  refine List.Perm.eq_of_pairwise (fun x y hx hy hxy hyx => ?_) hxs hys hperm
  exact absurd hyx (hxy.asymm (hrows x hx) (hrows y (hperm.mem_iff.2 hy)) hsort)

/-- Rows may be left out before they are sorted or after. -/
theorem filter_sortRows (hrows : ∀ row ∈ rows, row.Proper) (hids : (rows.map (·.id)).Nodup)
    (hsort : ∀ key ∈ sort, c.hasField key.field = true) (p : Row → Bool) :
    (sortRows (rowKeys c sort) rows).filter p = sortRows (rowKeys c sort) (rows.filter p) := by
  have hkept : ∀ row ∈ rows.filter p, row.Proper := fun row hrow =>
    hrows row (List.mem_filter.1 hrow).1
  have hperm : ((sortRows (rowKeys c sort) rows).filter p).Perm
      (sortRows (rowKeys c sort) (rows.filter p)) :=
    ((sortRows_perm _ rows).filter p).trans (sortRows_perm _ _).symm
  refine eq_of_precedes (fun row hrow => ?_) hsort hperm ?_ ?_
  · exact hrows row ((sortRows_perm _ rows).mem_iff.1 (List.mem_filter.1 hrow).1)
  · exact (sortRows_precedes hrows hids hsort).filter p
  · exact sortRows_precedes hkept (hids.sublist (List.filter_sublist.map _)) hsort

end SchoolCatalog.Store
