import SchoolCatalog.Proofs.Store.Matching
import SchoolCatalog.Proofs.Store.Sorting

/-!
# Related records

What is attached to the records of a list. The keys of the records are looked up in batches, and each
batch answers with its own related records in order. Since every key lies in exactly one batch, a record
finds among all answers what it would find among all records of the related collection. Nothing of that
needs more of a database than its tables with proper cells and different identities, and nothing more of
the records than keys that are integers, or none.

Results:
1. `sortedKeys_int`: keys that are integers can be put in order, and each is looked up once.
2. `found_batch`: the answer to a batch of keys.
3. `populate_eq`: what is looked up depends on the keys of the records alone.
4. `run_populate_keyed`: each record gets what is related to it out of all records of the related
   collection, unless a batch is more than a statement can hold.
5. `run_populate`: the records of rows of a sound database.
-/

namespace SchoolCatalog

/-! ## Different keys -/

/-- Leaving out what came before leaves no item twice. -/
theorem nodup_foldl_unseen {α : Type} [BEq α] [LawfulBEq α] {items acc : List α} (h : acc.Nodup) :
    (items.foldl (fun seen a => if seen.contains a then seen else seen ++ [a]) acc).Nodup := by
  induction items generalizing acc with
  | nil => exact h
  | cons a rest ih =>
    rw [List.foldl_cons]
    refine ih ?_
    split
    next => exact h
    next hnew =>
      rw [List.nodup_append]
      refine ⟨h, by simp, fun b hb d hd => ?_⟩
      rw [List.mem_singleton.1 hd]
      rintro rfl
      exact hnew (List.contains_iff_mem.2 hb)

namespace Store

theorem same_int (i j : Int) : (Datum.int i).same (.int j) = decide (i = j) := by
  simp [Datum.same, Datum.sameNumber, Datum.wholeValue?]

theorem distinct_int (ids : List Int) :
    distinct (ids.map .int) =
      (ids.foldl (fun seen i => if seen.contains i then seen else seen ++ [i]) []).map .int := by
  have hfold (seen : List Int) :
      (ids.map Datum.int).foldl (fun seen k => if seen.any k.same then seen else seen ++ [k])
        (seen.map .int) =
      (ids.foldl (fun seen i => if seen.contains i then seen else seen ++ [i]) seen).map .int := by
    induction ids generalizing seen with
    | nil => rfl
    | cons i rest ih =>
      have hany : (seen.map Datum.int).any (Datum.int i).same = seen.contains i := by
        rw [List.any_map, List.contains_eq_any_beq]
        exact congrArg seen.any (funext fun j => same_int i j)
      rw [List.map_cons, List.foldl_cons, List.foldl_cons, hany, ← ih]
      split
      · rfl
      · rw [List.map_append]
        rfl
  exact hfold []

/-- Keys that are integers can be put in order, and each stands once. -/
theorem sortedKeys_int (ids : List Int) : ∃ sorted : List Int,
    sortedKeys (ids.map .int) = .ok (sorted.map .int) ∧ sorted.Nodup ∧ (∀ i, i ∈ sorted ↔ i ∈ ids) ∧
      sorted.length = (distinct (ids.map .int)).length := by
  let different := ids.foldl (fun seen i => if seen.contains i then seen else seen ++ [i]) []
  have hnodup : different.Nodup := nodup_foldl_unseen List.nodup_nil
  have hmem : ∀ i, i ∈ different ↔ i ∈ ids := by
    intro i
    rw [mem_foldl_unseen]
    simp
  have hcomparable : (different.map Datum.int).all (fun k => (different.map Datum.int).all
      (comparable k)) = true := by
    simp [comparable, isNumber, Datum.wholeValue?]
  unfold sortedKeys
  dsimp only
  rw [distinct_int]
  rw [if_neg (by simp), hcomparable]
  split
  · exact ⟨different, rfl, hnodup, hmem, (List.length_map _).symm⟩
  · refine ⟨different.mergeSort fun i j => keyOrder? (.int i) (.int j) ≠ some .gt, ?_, ?_, ?_, ?_⟩
    · rw [if_pos rfl]
      exact congrArg Except.ok (List.map_mergeSort (f := Datum.int) fun _ _ _ _ => rfl).symm
    · exact (List.mergeSort_perm ..).nodup_iff.2 hnodup
    · intro i
      rw [List.mem_mergeSort, hmem]
    · rw [List.length_mergeSort, List.length_map]

/-! ## Batches -/

/-- Batches are made up of the items in turn; none is empty or larger than its size. -/
theorem batches_spec {α : Type} {size : Nat} (hsize : 0 < size) {fuel : Nat} {items : List α}
    (hfuel : items.length ≤ fuel) :
    (batches size fuel items).flatten = items ∧
      ∀ batch ∈ batches size fuel items, batch ≠ [] ∧ batch.length ≤ size := by
  induction fuel generalizing items with
  | zero =>
    rw [List.length_eq_zero_iff.1 (Nat.le_zero.1 hfuel)]
    exact ⟨rfl, fun batch hbatch => nomatch hbatch⟩
  | succ fuel ih =>
    rw [batches]
    split
    next hempty =>
      rw [List.isEmpty_iff.1 hempty]
      exact ⟨rfl, fun batch hbatch => nomatch hbatch⟩
    next hne =>
      have hlength : 0 < items.length := List.length_pos_iff.2 fun hnil => hne (by rw [hnil]; rfl)
      have hrest : (items.drop size).length ≤ fuel := by
        rw [List.length_drop]
        omega
      obtain ⟨hflatten, hbatches⟩ := ih hrest
      constructor
      · rw [List.flatten_cons, hflatten, List.take_append_drop]
      · intro batch hbatch
        rcases List.mem_cons.1 hbatch with rfl | hbatch
        · refine ⟨fun hnil => ?_, List.length_take_le ..⟩
          have := congrArg List.length hnil
          rw [List.length_take, List.length_nil] at this
          omega
        · exact hbatches batch hbatch

theorem batches_map {α β : Type} (f : α → β) (size fuel : Nat) (items : List α) :
    batches size fuel (items.map f) = (batches size fuel items).map (List.map f) := by
  induction fuel generalizing items with
  | zero => rfl
  | succ fuel ih =>
    rw [batches, batches, List.isEmpty_map, ← List.map_drop, ih, ← List.map_take]
    split <;> rfl

/-- An item that meets no key but one of a single batch is answered once. -/
theorem filter_batches {α : Type} (meets : α → Int → Bool) {items : List α} {i : Int}
    {batches : List (List Int)} (hunique : ∀ a ∈ items, meets a i = true →
      ∀ j ∈ batches.flatten, meets a j = true → j = i)
    (hnodup : batches.flatten.Nodup) (hi : i ∈ batches.flatten) :
    ((batches.map fun batch => items.filter fun a => batch.any (meets a)).flatten).filter
        (fun a => meets a i) =
      items.filter fun a => meets a i := by
  induction batches with
  | nil => exact nomatch hi
  | cons batch rest ih =>
    rw [List.flatten_cons] at hunique
    rw [List.flatten_cons, List.nodup_append] at hnodup
    obtain ⟨_, hrest, hdisjoint⟩ := hnodup
    have hmember {keys : List Int} (hkeys : ∀ j ∈ keys, j ∈ batch ++ rest.flatten) {a : α}
        (ha : a ∈ items) (hmeets : meets a i = true) (hany : keys.any (meets a) = true) : i ∈ keys := by
      obtain ⟨j, hj, hsame⟩ := List.any_eq_true.1 hany
      exact hunique a ha hmeets j (hkeys j hj) hsame ▸ hj
    rw [List.map_cons, List.flatten_cons, List.filter_append, List.filter_filter]
    by_cases hfirst : i ∈ batch
    · -- no later batch holds the key again
      have hlater : ((rest.map fun batch => items.filter fun a => batch.any (meets a)).flatten).filter
          (fun a => meets a i) = [] := by
        refine List.filter_eq_nil_iff.2 fun a ha hmeets => ?_
        obtain ⟨part, hpart, ha⟩ := List.mem_flatten.1 ha
        obtain ⟨later, hlater, rfl⟩ := List.mem_map.1 hpart
        obtain ⟨ha, hany⟩ := List.mem_filter.1 ha
        have hmem {j : Int} (hj : j ∈ later) : j ∈ rest.flatten := List.mem_flatten.2 ⟨later, hlater, hj⟩
        have hagain := hmember (fun j hj => List.mem_append_right _ (hmem hj)) ha hmeets hany
        exact hdisjoint i hfirst i (hmem hagain) rfl
      rw [hlater, List.append_nil]
      refine List.filter_congr fun a _ => ?_
      rw [Bool.and_eq_left_iff_imp]
      exact fun hmeets => List.any_eq_true.2 ⟨i, hfirst, hmeets⟩
    · have hnone : (items.filter fun a => meets a i && batch.any (meets a)) = [] := by
        refine List.filter_eq_nil_iff.2 fun a ha hboth => ?_
        obtain ⟨hmeets, hany⟩ := Bool.and_eq_true_iff.1 hboth
        exact hfirst (hmember (fun j hj => List.mem_append_left _ hj) ha hmeets hany)
      rw [hnone, List.nil_append]
      rw [List.flatten_cons, List.mem_append] at hi
      exact ih (fun a ha hmeets j hj => hunique a ha hmeets j (List.mem_append_right _ hj)) hrest
        (hi.resolve_left hfirst)

/-! ## Keys -/

/-- The tables of the catalog are there, their cells are proper, and no two rows of a table have the same
identity. -/
structure Database.Regular (db : Database) : Prop where
  standing : db.Standing
  proper : ∀ l ∈ Layout.standard, ∀ row ∈ db.rows l.name, row.Proper
  different : ∀ l ∈ Layout.standard, ((db.rows l.name).map (·.id)).Nodup

variable {db : Database} {c : Collection} {l m : Layout} {inc : Include}

theorem Database.Sound.regular (h : db.Sound) : db.Regular where
  standing := h.standing
  proper _ hl _ hrow := h.row_proper hl hrow
  different _ hl := h.ids_nodup hl

/-- Whether what a row holds under a field equals an integer. -/
def Row.meets (row : Row) (field : String) (i : Int) : Bool :=
  (row.read (fieldReference field)).compare (.int i) = .eq

/-- A row meets no two integers. -/
theorem Row.Proper.meets_unique {row : Row} (h : row.Proper) {f : String} {i j : Int}
    (hi : Number.fitsWord i = true) (hj : Number.fitsWord j = true) (hmeets : row.meets f i = true)
    (hother : row.meets f j = true) : j = i := by
  have hproper := h (fieldReference f)
  rcases Cell.compare_int_eq hproper hi (of_decide_eq_true hmeets) with hint | ⟨x, hreal, hx⟩ <;>
    rcases Cell.compare_int_eq hproper hj (of_decide_eq_true hother) with hint' | ⟨y, hreal', hy⟩
  · exact Cell.int.inj (hint'.symm.trans hint)
  · exact nomatch hint.symm.trans hreal'
  · exact nomatch hint'.symm.trans hreal
  · cases hreal.symm.trans hreal'
    exact Option.some.inj (hy.symm.trans hx)

/-- The value of a proper cell is the same as an integer if the cell equals it. -/
theorem same_toDatum {cell : Cell} (h : cell.Proper) (i : Int) :
    cell.toDatum.same (.int i) = decide (cell.compare (.int i) = .eq) := by
  cases cell with
  | null => simp [Cell.toDatum, Datum.same, Datum.isNull, Cell.compare, Cell.rank]
  | text s => simp [Cell.toDatum, Datum.same, Cell.compare, Cell.rank]
  | blob b => simp [Cell.toDatum, Datum.same, Cell.compare, Cell.rank]
  | int j =>
    show (Datum.int j).same (.int i) = decide (Ord.compare j i = .eq)
    rw [same_int, decide_eq_decide, Std.LawfulEqOrd.compare_eq_iff_eq]
  | real x =>
    show decide (x.compareInt? i = some .eq) = decide ((x.compareInt? i).getD .eq = .eq)
    rw [Cell.compareInt?_eq h i]
    simp

/-- The identity that a key of a row holds. -/
def Row.key (row : Row) (field : String) : Int :=
  match row.read (fieldReference field) with
  | .int i => i
  | _ => 0

theorem read_eq_key (h : db.Sound) (k : Kept c l) {f : String} (hf : IsKey c l f) {row : Row}
    (hrow : row ∈ db.rows l.name) :
    row.read (fieldReference f) = .int (row.key f) ∧ Cell.IsIdentity (row.key f) := by
  obtain ⟨i, hread, hi⟩ := read_key h k hf hrow
  have hkey : row.key f = i := by rw [Row.key, hread]
  rw [hkey]
  exact ⟨hread, hi⟩

/-- A record that shows a key shows what the row holds there. -/
theorem get?_key (k : Kept c l) {f : String} (hf : IsKey c l f) (projection : Option (List String))
    (hshown : f ∈ columns c projection false) (row : Row) :
    Record.get? (recordOf c (l.shown (columns c projection false)) row) f =
      some (row.read (fieldReference f)).toDatum := by
  obtain ⟨hnodup, _, hdeclared⟩ := columns_spec k projection false
  rw [get?_recordOf k hnodup hdeclared row hshown, shown, kind_key k hf]
  rfl

/-! ## Answers to batches -/

/-- An inclusion between collections of the catalog, by keys that are shown on both sides. -/
structure Attaches (c : Collection) (l : Layout) (inc : Include) (m : Layout) : Prop where
  kept : Kept c l
  related : Kept inc.collection m
  localKey : IsKey c l inc.localField
  foreignKey : IsKey inc.collection m inc.foreignField
  foreignShown : inc.foreignField ∈
    columns inc.collection (inc.fields.map fun fields => fields ++ [inc.foreignField]) false

/-- The selection of the records that are related to keys. -/
def relatedSelection (inc : Include) (keys : List Datum) : Selection where
  conditions := [⟨inc.foreignField, .oneOf, .list keys⟩]
  projection := inc.fields.map fun fields => fields ++ [inc.foreignField]
  sort := inc.collection.defaultSort

/-- The record of a row of the related collection. -/
def relatedRecord (inc : Include) (m : Layout) (row : Row) : Record :=
  recordOf inc.collection (m.shown (columns inc.collection
    (inc.fields.map fun fields => fields ++ [inc.foreignField]) false)) row

/-- The rows of the related collection in order. -/
def Database.relatedRows (db : Database) (inc : Include) (m : Layout) : List Row :=
  sortRows (rowKeys inc.collection inc.collection.defaultSort) (db.rows m.name)

/-- The records that answer a batch of keys: those that carry one of them, in order. -/
def Database.answers (db : Database) (inc : Include) (m : Layout) (batch : List Int) : List Record :=
  ((db.relatedRows inc m).filter fun row => batch.any (row.meets inc.foreignField)).map
    (relatedRecord inc m)

theorem mem_relatedRows {row : Row} : row ∈ db.relatedRows inc m ↔ row ∈ db.rows m.name :=
  (sortRows_perm _ _).mem_iff

theorem defaultSort_declared (k : Kept c l) : ∀ key ∈ c.defaultSort, c.hasField key.field = true := by
  cases k <;> decide

theorem orderKeys_defaultSort (k : Kept c l) : (c.orderKeys c.defaultSort).length ≤ 2 := by
  cases k <;> decide

theorem plain_batch (f : String) (ids : List Int) :
    Condition.IsPlain ⟨f, .oneOf, .list (ids.map .int)⟩ := by
  refine .among fun d hd => ?_
  obtain ⟨i, _, rfl⟩ := List.mem_map.1 hd
  exact .int i

/-- A row is among those of a batch if it meets one of its keys. -/
theorem holds_batch (k : Kept c l) {f : String} (hf : IsKey c l f) {ids : List Int}
    (hids : ∀ i ∈ ids, Number.fitsWord i = true) (hne : ids ≠ []) (row : Row) :
    Condition.holds c l row ⟨f, .oneOf, .list (ids.map .int)⟩ = ids.any (row.meets f) := by
  have hbind : (ids.map Datum.int).mapM Cell.bind = .ok (ids.map Cell.int) := by
    clear hne
    induction ids with
    | nil => rfl
    | cons i rest ih =>
      exact mapM_cons_ok (if_pos (hids i (List.mem_cons_self ..)))
        (ih fun j hj => hids j (List.mem_cons_of_mem i hj))
  have htest : Condition.test c l ⟨f, .oneOf, .list (ids.map .int)⟩ =
      .ok (.among (some (fieldReference f)) (ids.map .int)) := by
    rw [Condition.test, Condition.clause?, if_pos (isQueryable_of_visible hf.1)]
    dsimp only [candidates?, Option.map_some]
    rw [if_neg (by simpa using hne)]
    dsimp only [Test.ofClause]
    rw [hbind, Option.map_some, k.resolve_field (visible_subset hf.1)]
    rfl
  have horder (i : Int) : order? l row (some (fieldReference f)) (.int i) =
      if (row.read (fieldReference f)).isNull then none
        else some ((row.read (fieldReference f)).compare (.int i)) := by
    rw [order?, affinity_key k hf, show (Cell.int i).isNull = false from rfl, Bool.or_false]
    rfl
  rw [Condition.holds, htest]
  dsimp only [Test.holds]
  rw [List.any_map]
  refine congrArg ids.any (funext fun i => ?_)
  rw [Function.comp_apply, horder, Row.meets]
  cases row.read (fieldReference f) with
  | null => rfl
  | _ => simp [Cell.isNull]

/-- A batch of keys finds the related records that carry one of them, unless it is more than a statement
can hold. -/
theorem found_batch (h : db.Regular) (a : Attaches c l inc m) {ids : List Int}
    (hids : ∀ i ∈ ids, Number.fitsWord i = true) (hne : ids ≠ []) :
    db.found inc.collection (relatedSelection inc (ids.map .int)) =
      if ids.length ≤ Statement.greatestParameters then .ok (db.answers inc m ids)
      else .error .unavailable := by
  have k := a.related
  have hplain := plain_batch inc.foreignField ids
  obtain ⟨clause, hclause, hparameters, _⟩ := Condition.clause?_of_plain (c := inc.collection) hplain
  have hclauses : Condition.clauses? inc.collection (relatedSelection inc (ids.map .int)).conditions =
      some [clause] := by
    show [_].mapM (Condition.clause? inc.collection) = _
    rw [List.mapM_cons, hclause]
    rfl
  have hlength : clause.parameters.length = ids.length := by
    rw [hparameters]
    exact List.length_map _
  by_cases hfew : ids.length ≤ Statement.greatestParameters
  · have hbounds : ((relatedSelection inc (ids.map .int)).statement inc.collection
        [clause]).keepsBounds = true := by
      refine keepsBounds_one k ?_ ?_
      · exact Nat.le_trans (orderKeys_defaultSort k) (by decide)
      · show 0 + clause.parameters.length ≤ _
        rwa [Nat.zero_add, hlength]
    have hmatching : db.matching inc.collection m (relatedSelection inc (ids.map .int)).conditions =
        (db.rows m.name).filter fun row => ids.any (row.meets inc.foreignField) := by
      refine List.filter_congr fun row _ => ?_
      show (Condition.holds _ _ _ _ && true) = _
      rw [Bool.and_true, holds_batch k a.foreignKey hids hne]
    have hfits : ∀ cond ∈ (relatedSelection inc (ids.map .int)).conditions, cond.FitsWord := by
      intro cond hcond d hd i hi
      rw [List.mem_singleton.1 hcond] at hd
      obtain ⟨j, hj, rfl⟩ := List.mem_map.1 hd
      cases hi
      exact hids _ hj
    obtain ⟨tests, htests⟩ := (SucceedsIf.mapM fun cond hcond =>
      Condition.test_succeeds inc.collection m (List.mem_singleton.1 hcond ▸ hplain)).1 hfits
    rw [if_pos hfew, found_eq h.standing k hclauses hbounds, htests, hmatching]
    show Except.ok (List.map (relatedRecord inc m)
      (sortRows (rowKeys inc.collection inc.collection.defaultSort)
        ((db.rows m.name).filter fun row => ids.any (row.meets inc.foreignField)))) = _
    rw [← filter_sortRows (h.proper m k.mem_standard) (h.different m k.mem_standard)
      (defaultSort_declared k)]
    rfl
  · have hexceeds : ((relatedSelection inc (ids.map .int)).statement inc.collection
        [clause]).keepsBounds = false := by
      rw [Bool.eq_false_iff]
      intro hkeeps
      have hmost : 0 + clause.parameters.length ≤ _ := (keepsBounds_iff.1 hkeeps).2.2.2
      rw [Nat.zero_add, hlength] at hmost
      exact hfew hmost
    rw [if_neg hfew, Database.found, hclauses]
    dsimp only
    rw [select_eq h.standing k fun clause hclause f hf => columnOf?_declared hclauses hclause hf,
      selected, hexceeds, if_neg Bool.false_ne_true]

/-! ## Attaching -/

/-- All records of the related collection in order. -/
def Database.relatable (db : Database) (inc : Include) (m : Layout) : List Record :=
  (db.relatedRows inc m).map (relatedRecord inc m)

theorem get?_relatedRecord (a : Attaches c l inc m) (row : Row) :
    Record.get? (relatedRecord inc m row) inc.foreignField =
      some (row.read (fieldReference inc.foreignField)).toDatum :=
  get?_key a.related a.foreignKey _ a.foreignShown row

/-- Of related records, those are a record's own that carry its key. -/
theorem own_eq (h : db.Regular) (a : Attaches c l inc m) {rows : List Row}
    (hrows : ∀ row ∈ rows, row ∈ db.rows m.name) (i : Int) :
    ((rows.map (relatedRecord inc m)).filter fun r =>
        !(Datum.int i).isNull && (Record.field r inc.foreignField).same (.int i)) =
      (rows.filter fun row => row.meets inc.foreignField i).map (relatedRecord inc m) := by
  rw [List.filter_map]
  refine congrArg (List.map _) (List.filter_congr fun row hrow => ?_)
  show (true && _) = _
  rw [Bool.true_and, Record.field, get?_relatedRecord a, Option.getD_some,
    same_toDatum (h.proper m a.related.mem_standard row (hrows row hrow) _)]
  rfl

/-- Nothing is a record's own that has no key. -/
theorem attachment_null (inc : Include) (related : List Record) :
    attachment inc related .null = if inc.many then .list [] else .null := by
  have hnone : (related.filter fun r =>
      !Datum.null.isNull && (Record.field r inc.foreignField).same .null) = [] :=
    List.filter_eq_nil_iff.2 fun _ _ => Bool.false_ne_true
  unfold attachment
  dsimp only
  rw [hnone]
  rfl

/-- Every answer to a batch carries its key. -/
theorem answers_carry (db : Database) (a : Attaches c l inc m) (batches : List (List Int)) :
    ((batches.map (db.answers inc m)).flatten.all fun r => Record.has r inc.foreignField) = true := by
  refine List.all_eq_true.2 fun r hr => ?_
  obtain ⟨part, hpart, hr⟩ := List.mem_flatten.1 hr
  obtain ⟨batch, _, rfl⟩ := List.mem_map.1 hpart
  obtain ⟨row, _, rfl⟩ := List.mem_map.1 hr
  rw [Record.has, get?_relatedRecord a]
  rfl

/-- Out of the answers to batches a record gets what it gets out of all related records. -/
theorem attachment_answers (h : db.Regular) (a : Attaches c l inc m) {batches : List (List Int)}
    (hnodup : batches.flatten.Nodup) (hfits : ∀ i ∈ batches.flatten, Number.fitsWord i = true) {i : Int}
    (hi : i ∈ batches.flatten) :
    attachment inc (batches.map (db.answers inc m)).flatten (.int i) =
      attachment inc (db.relatable inc m) (.int i) := by
  have hanswers : (batches.map (db.answers inc m)).flatten =
      ((batches.map fun batch => (db.relatedRows inc m).filter fun row =>
        batch.any (row.meets inc.foreignField)).flatten).map (relatedRecord inc m) := by
    rw [List.map_flatten, List.map_map]
    rfl
  have hmem : ∀ row ∈ (batches.map fun batch => (db.relatedRows inc m).filter fun row =>
      batch.any (row.meets inc.foreignField)).flatten, row ∈ db.rows m.name := by
    intro row hrow
    obtain ⟨part, hpart, hrow⟩ := List.mem_flatten.1 hrow
    obtain ⟨batch, _, rfl⟩ := List.mem_map.1 hpart
    exact mem_relatedRows.1 (List.mem_filter.1 hrow).1
  have hunique : ∀ row ∈ db.relatedRows inc m, row.meets inc.foreignField i = true →
      ∀ j ∈ batches.flatten, row.meets inc.foreignField j = true → j = i := by
    intro row hrow hmeets j hj hother
    have hproper := h.proper m a.related.mem_standard row (mem_relatedRows.1 hrow)
    exact hproper.meets_unique (hfits i hi) (hfits j hj) hmeets hother
  unfold attachment
  dsimp only
  rw [hanswers, own_eq h a hmem, Database.relatable, own_eq h a fun row hrow => mem_relatedRows.1 hrow,
    filter_batches (fun row : Row => row.meets inc.foreignField) hunique hnodup hi]

/-- The keys of records that related records are found by. -/
def localKeys (inc : Include) (records : List Record) : List Datum :=
  (records.map fun r => Record.field r inc.localField).filter fun d => !d.isNull

/-- A key that leads to related records or to none: an integer of 64 bits, or null. -/
inductive IsLink : Datum → Prop
  | null : IsLink .null
  | int {i : Int} (fits : Number.fitsWord i = true) : IsLink (.int i)

/-- The keys of records that are linked are integers. -/
theorem localKeys_int {records : List Record}
    (h : ∀ r ∈ records, IsLink (Record.field r inc.localField)) :
    ∃ ids : List Int, localKeys inc records = ids.map .int ∧
      (∀ i ∈ ids, Number.fitsWord i = true) ∧
      ∀ r ∈ records, ∀ i, Record.field r inc.localField = .int i → i ∈ ids := by
  have hkeys : ∀ d ∈ localKeys inc records, ∃ i, d = .int i ∧ Number.fitsWord i = true := by
    intro d hd
    obtain ⟨hd, hnull⟩ := List.mem_filter.1 hd
    obtain ⟨r, hr, rfl⟩ := List.mem_map.1 hd
    have hlink := h r hr
    generalize Record.field r inc.localField = key at hlink hnull
    cases hlink with
    | null => exact nomatch hnull
    | int fits => exact ⟨_, rfl, fits⟩
  obtain ⟨ids, hids, hfits⟩ := exists_map_eq (f := id) hkeys
  rw [List.map_id] at hids
  refine ⟨ids, hids, hfits, fun r hr i hi => ?_⟩
  have hmem : Datum.int i ∈ localKeys inc records :=
    List.mem_filter.2 ⟨hi ▸ List.mem_map_of_mem hr, rfl⟩
  rw [hids] at hmem
  obtain ⟨j, hj, hsame⟩ := List.mem_map.1 hmem
  cases hsame
  exact hj

/-- What is looked up for keys. -/
def lookedUp (store : Store) (inc : Include) (keys : List Datum) : Service (List Record) := do
  let keys ← Service.ofExcept (sortedKeys keys)
  let batches ← Service.ofExcept (keyBatches (← read).batchSize keys)
  let found ← batches.mapM (store.related inc)
  if !found.flatten.all fun r => Record.has r inc.foreignField then Service.fail .absentField
  return found.flatten

/-- What is looked up depends on the keys of the records alone. -/
theorem populate_eq (store : Store) (records : List Record) (inc : Include) :
    store.populate records inc = (do
      let related ← lookedUp store inc (localKeys inc records)
      return records.map fun r =>
        Record.put r inc.path (attachment inc related (Record.field r inc.localField))) := by
  unfold populate lookedUp localKeys
  simp only [bind_assoc]
  refine bind_congr fun keys => bind_congr fun around => bind_congr fun batches =>
    bind_congr fun found => ?_
  cases found.flatten.all fun r => Record.has r inc.foreignField with
  | true => rfl
  | false => rfl

end Store

open Store

namespace Service

variable {around : Surroundings} {state : State}

theorem run_mapM {α β : Type} {f : α → Service β} {g : α → β} {items : List α}
    (h : ∀ a ∈ items, run (f a) around state = (.ok (g a), state)) :
    run (items.mapM f) around state = (.ok (items.map g), state) := by
  induction items with
  | nil => rfl
  | cons a rest ih =>
    have hrest := ih fun b hb => h b (List.mem_cons_of_mem a hb)
    rw [List.mapM_cons]
    simp only [run_bind, h a (List.mem_cons_self ..), hrest]
    rfl

/-- Batches that a statement can hold are answered one by one. -/
theorem run_batches {c : Collection} {l m : Layout} {inc : Include} (h : state.database.Regular)
    (a : Attaches c l inc m) {batched : List (List Int)}
    (hbatched : ∀ batch ∈ batched, batch ≠ [] ∧ batch.length ≤ Statement.greatestParameters ∧
      ∀ i ∈ batch, Number.fitsWord i = true) :
    run ((batched.map (List.map Datum.int)).mapM (({} : Store).related inc)) around state =
      (.ok (batched.map (state.database.answers inc m)), state) := by
  rw [List.mapM_map]
  refine run_mapM fun batch hbatch => ?_
  obtain ⟨hne, hlength, hword⟩ := hbatched batch hbatch
  have hfound := found_batch h a hword hne
  rw [if_pos hlength] at hfound
  rw [Function.comp_apply, Store.related, run_find]
  exact congrArg (·, state) hfound

/-- What is looked up for integers in batches, if a statement can hold each. -/
theorem run_lookedUp {c : Collection} {l m : Layout} {inc : Include} (h : state.database.Regular)
    (a : Attaches c l inc m) (hsize : 0 < around.batchSize) {ids : List Int}
    (hfits : ∀ i ∈ ids, Number.fitsWord i = true)
    (hfew : around.batchSize ≤ Statement.greatestParameters ∨
      (distinct (ids.map .int)).length ≤ Statement.greatestParameters) :
    ∃ batched : List (List Int), batched.flatten.Nodup ∧ (∀ i, i ∈ batched.flatten ↔ i ∈ ids) ∧
      run (lookedUp {} inc (ids.map .int)) around state =
        (.ok (batched.map (state.database.answers inc m)).flatten, state) := by
  obtain ⟨sorted, hsorted, hnodup, hmem, hlength⟩ := sortedKeys_int ids
  obtain ⟨hflatten, hbatches⟩ := batches_spec (Int.pos_iff_toNat_pos.1 hsize)
    (Nat.le_refl sorted.length)
  have hpieces : keyBatches around.batchSize (sorted.map .int) =
      .ok ((batches around.batchSize.toNat sorted.length sorted).map (List.map .int)) := by
    rw [keyBatches, if_neg (by omega), if_neg (by omega), List.length_map, batches_map]
  generalize batches around.batchSize.toNat sorted.length sorted = batched at hflatten hbatches hpieces
  have hanswers : run ((batched.map (List.map Datum.int)).mapM (({} : Store).related inc)) around
      state = (.ok (batched.map (state.database.answers inc m)), state) := by
    refine run_batches h a fun batch hbatch => ?_
    obtain ⟨hne, hmost⟩ := hbatches batch hbatch
    have hsub : batch.length ≤ sorted.length :=
      hflatten ▸ (List.sublist_flatten_of_mem hbatch).length_le
    refine ⟨hne, by omega, fun i hi => hfits i ((hmem i).1 ?_)⟩
    exact hflatten ▸ List.mem_flatten.2 ⟨batch, hbatch, hi⟩
  refine ⟨batched, hflatten ▸ hnodup, fun i => by rw [hflatten, hmem], ?_⟩
  simp only [lookedUp, run_bind, hsorted, run_ofExcept, run_read, hpieces, hanswers,
    answers_carry _ a, Bool.not_true, Bool.false_eq_true, if_false, run_pure]

/-- Nothing is looked up if the first batch is more than a statement can hold. -/
theorem lookedUp_of_many {c : Collection} {l m : Layout} {inc : Include} (h : state.database.Regular)
    (a : Attaches c l inc m) {ids : List Int} (hfits : ∀ i ∈ ids, Number.fitsWord i = true)
    (hsize : (Statement.greatestParameters : Int) < around.batchSize)
    (hmany : Statement.greatestParameters < (distinct (ids.map .int)).length) :
    run (lookedUp {} inc (ids.map .int)) around state = (.error .unavailable, state) := by
  obtain ⟨sorted, hsorted, _, hmem, hlength⟩ := sortedKeys_int ids
  rw [← hlength] at hmany
  obtain ⟨n, hn⟩ : ∃ n, sorted.length = n + 1 := Nat.exists_eq_add_one.2 (by omega)
  have hne : sorted.isEmpty = false := by
    rw [List.isEmpty_eq_false_iff, ← List.length_pos_iff]
    omega
  let first := sorted.take around.batchSize.toNat
  have hpieces : keyBatches around.batchSize (sorted.map .int) = .ok (first.map .int ::
      (batches around.batchSize.toNat n (sorted.drop around.batchSize.toNat)).map (List.map .int)) := by
    rw [keyBatches, if_neg (by omega), if_neg (by omega), List.length_map, batches_map, hn, batches, hne,
      if_neg Bool.false_ne_true]
    rfl
  have hlong : Statement.greatestParameters < first.length := by
    rw [List.length_take]
    omega
  have hfound : run (({} : Store).related inc (first.map .int)) around state =
      (.error .unavailable, state) := by
    rw [Store.related, run_find]
    refine congrArg (·, state) ((found_batch h a (fun i hi => ?_) fun hnil => ?_).trans
      (if_neg (Nat.not_le.2 hlong)))
    · exact hfits i ((hmem i).1 (List.mem_of_mem_take hi))
    · rw [hnil] at hlong
      exact nomatch hlong
  simp only [lookedUp, run_bind, hsorted, run_ofExcept, run_read, hpieces, List.mapM_cons, hfound]

/-- Each record gets what is related to it out of all records of the related collection, unless more keys
are looked up at once than a statement can hold. -/
theorem run_populate_keyed {c : Collection} {l m : Layout} {inc : Include} (h : state.database.Regular)
    (a : Attaches c l inc m) (hsize : 0 < around.batchSize) {records : List Record}
    (hlinks : ∀ r ∈ records, IsLink (Record.field r inc.localField)) :
    run (({} : Store).populate records inc) around state =
      (if around.batchSize ≤ Statement.greatestParameters ∨
          (distinct (localKeys inc records)).length ≤ Statement.greatestParameters then
        .ok (records.map fun r => Record.put r inc.path
          (attachment inc (state.database.relatable inc m) (Record.field r inc.localField)))
      else .error .unavailable, state) := by
  obtain ⟨ids, hids, hfits, hkeys⟩ := localKeys_int hlinks
  rw [populate_eq, run_bind, hids]
  by_cases hfew : around.batchSize ≤ Statement.greatestParameters ∨
      (distinct (ids.map .int)).length ≤ Statement.greatestParameters
  · obtain ⟨batched, hnodup, hmem, hrun⟩ := run_lookedUp h a hsize hfits hfew
    rw [hrun, if_pos hfew]
    dsimp only
    rw [run_pure]
    refine congrArg (fun records => (Except.ok records, state)) (List.map_congr_left fun r hr => ?_)
    have hlink := hlinks r hr
    have hkey := hkeys r hr
    generalize Record.field r inc.localField = key at hlink hkey
    cases hlink with
    | null => rw [attachment_null, attachment_null]
    | @int i fits =>
      rw [attachment_answers h a hnodup (fun j hj => hfits j ((hmem j).1 hj))
        ((hmem i).2 (hkey i rfl))]
  · obtain ⟨hbatch, hdistinct⟩ := not_or.1 hfew
    rw [lookedUp_of_many h a hfits (by omega) (by omega), if_neg hfew]

/-- Each record of a row gets what is related to it out of all records of the related collection. -/
theorem run_populate {c : Collection} {l m : Layout} {inc : Include} (h : state.database.Sound)
    (a : Attaches c l inc m) (hsize : 0 < around.batchSize)
    (hmost : around.batchSize ≤ Statement.greatestParameters) {rows : List Row}
    (hrows : ∀ row ∈ rows, row ∈ state.database.rows l.name) (projection : Option (List String))
    (hshown : inc.localField ∈ columns c projection false) :
    run (({} : Store).populate (rows.map (recordOf c (l.shown (columns c projection false)))) inc)
        around state =
      (.ok (rows.map fun row =>
        Record.put (recordOf c (l.shown (columns c projection false)) row) inc.path
          (attachment inc (state.database.relatable inc m) (.int (row.key inc.localField)))), state) := by
  have hfield : ∀ row ∈ rows, Record.field (recordOf c (l.shown (columns c projection false)) row)
      inc.localField = .int (row.key inc.localField) := by
    intro row hrow
    rw [Record.field, get?_key a.kept a.localKey projection hshown,
      (read_eq_key h a.kept a.localKey (hrows row hrow)).1]
    rfl
  have hlinks : ∀ r ∈ rows.map (recordOf c (l.shown (columns c projection false))),
      IsLink (Record.field r inc.localField) := by
    intro r hr
    obtain ⟨row, hrow, rfl⟩ := List.mem_map.1 hr
    rw [hfield row hrow]
    exact .int (read_eq_key h a.kept a.localKey (hrows row hrow)).2.proper
  rw [run_populate_keyed h.regular a hsize hlinks, if_pos (.inl hmost), List.map_map]
  refine congrArg (fun records => (Except.ok records, state)) (List.map_congr_left fun row hrow => ?_)
  rw [Function.comp_apply, hfield row hrow]

end Service
end SchoolCatalog
