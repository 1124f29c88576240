import SchoolCatalog.Catalog.Standard
import SchoolCatalog.Store.Select
import SchoolCatalog.Proofs.Lists

/-!
# The tables of the catalog

What the four layouts and the four collections have to do with each other: the fields of a collection
are the identity and the columns of its table, and in a statement each field stands for itself.

Results:
1. `Kept.resolve_field`, `Kept.title_field`: a field of a collection names its own column.
2. `shown_eq`: the columns shown for declared fields are these fields.
3. `check_of_declared`: a statement on declared fields is refused for its bounds alone.
-/

namespace SchoolCatalog.Store

/-- A collection of the catalog and the layout of its table. -/
inductive Kept : Collection → Layout → Prop
  | users : Kept .users .users
  | schools : Kept .schools .schools
  | courses : Kept .courses .courses
  | reviews : Kept .reviews .reviews

/-- What a field stands for in the table of its collection. -/
def fieldReference (field : String) : Reference :=
  if field = "id" then .identity else .column field

variable {c : Collection} {l : Layout}

namespace Kept

theorem mem_standard (h : Kept c l) : l ∈ Layout.standard := by
  cases h <;> simp [Layout.standard]

theorem fieldNames_eq (h : Kept c l) : c.fieldNames = "id" :: l.columns.map (·.name) := by
  cases h <;> rfl

theorem id_mem_visible (h : Kept c l) : "id" ∈ c.visibleFields := by
  cases h <;> decide

theorem fieldNames_nodup (h : Kept c l) : c.fieldNames.Nodup := by
  cases h <;> decide

theorem fieldNames_length (h : Kept c l) : c.fieldNames.length ≤ 20 := by
  cases h <;> decide

theorem table_statable (h : Kept c l) : isStatable c.name = true := by
  cases h <;> decide

theorem field_statable (h : Kept c l) {f : String} (hf : f ∈ c.fieldNames) :
    isStatable f = true ∧ isQuotable f = true := by
  revert f
  cases h <;> decide

/-- A field names the identity or its own column. -/
theorem resolve_field (h : Kept c l) {f : String} (hf : f ∈ c.fieldNames) :
    l.resolve f = fieldReference f := by
  revert f
  cases h <;> decide

theorem title_field (h : Kept c l) {f : String} (hf : f ∈ c.fieldNames) : l.title f = f := by
  revert f
  cases h <;> decide

theorem eq_of_sameName (h : Kept c l) {f g : String} (hf : f ∈ c.fieldNames)
    (hg : g ∈ c.fieldNames) (hsame : sameName f g = true) : f = g := by
  have hall : ∀ f ∈ c.fieldNames, ∀ g ∈ c.fieldNames, sameName f g = true → f = g := by
    cases h <;> decide
  exact hall f hf g hg hsame

theorem columns_nodup (h : Kept c l) : (l.columns.map (·.name)).Nodup := by
  have := h.fieldNames_nodup
  rw [h.fieldNames_eq] at this
  exact (List.nodup_cons.1 this).2

/-- The identity is no column. -/
theorem fieldReference_column (h : Kept c l) {col : Column} (hcol : col ∈ l.columns) :
    fieldReference col.name = .column col.name := by
  have hnodup := h.fieldNames_nodup
  rw [h.fieldNames_eq] at hnodup
  refine if_neg fun hid => (List.nodup_cons.1 hnodup).1 ?_
  exact hid ▸ List.mem_map_of_mem hcol

theorem column?_eq (h : Kept c l) {col : Column} (hcol : col ∈ l.columns) :
    l.column? col.name = some col := by
  refine find?_eq_some_of_unique hcol (by simp) fun d hd hname => ?_
  exact eq_of_mark_eq h.columns_nodup hd hcol (by simpa using hname)

end Kept

theorem hasField_iff {f : String} : c.hasField f = true ↔ f ∈ c.fieldNames := by
  rw [Collection.hasField, Collection.kind?, List.lookup_isSome_iff, Collection.fieldNames,
    List.mem_map]
  constructor
  · rintro ⟨p, hp, hname⟩
    exact ⟨p, hp, (beq_iff_eq.1 hname).symm⟩
  · rintro ⟨p, hp, rfl⟩
    exact ⟨p, hp, beq_self_eq_true _⟩

/-! ## Columns that are shown -/

theorem visible_subset {f : String} (h : f ∈ c.visibleFields) : f ∈ c.fieldNames :=
  (List.mem_filter.1 h).1

theorem isQueryable_of_visible {f : String} (h : f ∈ c.visibleFields) : c.isQueryable f = true := by
  have hshown := (List.mem_filter.1 h).2
  rw [Collection.isQueryable, hasField_iff.2 (visible_subset h), hshown]
  rfl

/-- The fields that a selection shows are among those that it may show. -/
theorem columns_available (h : Kept c l) {projection : Option (List String)} {includeHidden : Bool}
    {f : String} (hf : f ∈ columns c projection includeHidden) :
    f ∈ (if includeHidden then c.fieldNames else c.visibleFields) := by
  cases projection with
  | none => exact hf
  | some fields =>
    have hid : "id" ∈ (if includeHidden then c.fieldNames else c.visibleFields) := by
      cases includeHidden
      · exact h.id_mem_visible
      · exact visible_subset h.id_mem_visible
    rw [columns] at hf
    generalize (if includeHidden then c.fieldNames else c.visibleFields) = available at hid hf ⊢
    have hfold (shown : List String) (hshown : ∀ g ∈ shown, g ∈ available) :
        ∀ g ∈ fields.foldl (fun shown f =>
          if available.contains f && !shown.contains f then shown ++ [f] else shown) shown,
          g ∈ available := by
      clear hf
      induction fields generalizing shown with
      | nil => exact hshown
      | cons g rest ih =>
        rw [List.foldl_cons]
        refine ih _ ?_
        split
        next hadd =>
          intro x hx
          rcases List.mem_append.1 hx with hx | hx
          · exact hshown x hx
          · rw [List.mem_singleton.1 hx]
            exact List.contains_iff_mem.1 (Bool.and_eq_true_iff.1 hadd).1
        next => exact hshown
    exact hfold ["id"] (by simpa using hid) f hf

/-- The fields that a selection shows are declared and differ; the identity is one of them. -/
theorem columns_spec (h : Kept c l) (projection : Option (List String)) (includeHidden : Bool) :
    (columns c projection includeHidden).Nodup ∧ "id" ∈ columns c projection includeHidden ∧
      ∀ f ∈ columns c projection includeHidden, f ∈ c.fieldNames := by
  have hdeclared : ∀ f ∈ columns c projection includeHidden, f ∈ c.fieldNames := by
    intro f hf
    have havailable := columns_available h hf
    cases includeHidden
    · exact visible_subset havailable
    · exact havailable
  have hboth : (columns c projection includeHidden).Nodup ∧
      "id" ∈ columns c projection includeHidden := by
    clear hdeclared
    cases projection with
    | none =>
      cases includeHidden
      · exact ⟨h.fieldNames_nodup.filter _, h.id_mem_visible⟩
      · exact ⟨h.fieldNames_nodup, visible_subset h.id_mem_visible⟩
    | some fields =>
      rw [columns]
      generalize (if includeHidden then c.fieldNames else c.visibleFields) = available
      have hfold (shown : List String) (hnodup : shown.Nodup) (hmem : "id" ∈ shown) :
          let result := fields.foldl (fun shown f =>
            if available.contains f && !shown.contains f then shown ++ [f] else shown) shown
          result.Nodup ∧ "id" ∈ result := by
        induction fields generalizing shown with
        | nil => exact ⟨hnodup, hmem⟩
        | cons f rest ih =>
          rw [List.foldl_cons]
          split
          next hadd =>
            refine ih _ ?_ (List.mem_append_left _ hmem)
            have hnew : f ∉ shown := by simpa using (Bool.and_eq_true_iff.1 hadd).2
            rw [List.nodup_append]
            refine ⟨hnodup, by simp, fun a ha b hb hab => hnew ?_⟩
            rw [List.mem_singleton.1 hb] at hab
            exact hab ▸ ha
          next => exact ih shown hnodup hmem
      exact hfold ["id"] (by simp) (by simp)
  exact ⟨hboth.1, hboth.2, hdeclared⟩

/-- A visible field that is wanted is shown. -/
theorem mem_columns {fields : List String} {f : String} (hf : f ∈ fields)
    (hvisible : f ∈ c.visibleFields) : f ∈ columns c (some fields) false := by
  have hfold (shown : List String) (hmem : f ∈ shown ∨ f ∈ fields) :
      f ∈ fields.foldl (fun shown f =>
        if c.visibleFields.contains f && !shown.contains f then shown ++ [f] else shown) shown := by
    clear hf
    induction fields generalizing shown with
    | nil => exact hmem.resolve_right (fun hnone => nomatch hnone)
    | cons g rest ih =>
      rw [List.foldl_cons]
      refine ih _ ?_
      rcases hmem with hmem | hmem
      · left
        split
        · exact List.mem_append_left _ hmem
        · exact hmem
      · rcases List.mem_cons.1 hmem with rfl | hmem
        · left
          by_cases hseen : f ∈ shown
          · split
            · exact List.mem_append_left _ hseen
            · exact hseen
          · have hnew : (c.visibleFields.contains f && !shown.contains f) = true := by
              simp [hvisible, hseen]
            rw [if_pos hnew]
            exact List.mem_append_right _ (List.mem_singleton_self f)
        · exact .inr hmem
  exact hfold ["id"] (.inr hf)

/-- Declared fields are shown as they are. -/
theorem shown_eq (h : Kept c l) {fields : List String} (hnodup : fields.Nodup)
    (hfields : ∀ f ∈ fields, f ∈ c.fieldNames) :
    l.shown fields = fields.map fun f => ⟨f, fieldReference f⟩ := by
  have hall : (fields.map fun f => Shown.mk (l.title f) (l.resolve f)) =
      fields.map fun f => ⟨f, fieldReference f⟩ := by
    refine List.map_congr_left fun f hf => ?_
    rw [h.title_field (hfields f hf), h.resolve_field (hfields f hf)]
  have hdistinct : (fields.map fun f => Shown.mk f (fieldReference f)).Pairwise
      fun s t => decide (s.title = t.title) = false := by
    rw [List.pairwise_map]
    refine hnodup.imp fun {f g} hne => ?_
    simpa using hne
  have hfold := foldl_distinct (fun s t : Shown => decide (s.title = t.title)) []
    (by simpa using hdistinct)
  rw [Layout.shown, hall, hfold, List.nil_append, List.map_map]
  refine List.map_congr_left fun f hf => ?_
  have hfind : (fields.map fun f => Shown.mk f (fieldReference f)).find?
      (fun t => sameName t.title f) = some ⟨f, fieldReference f⟩ := by
    refine find?_eq_some_of_unique (List.mem_map.2 ⟨f, hf, rfl⟩) ?_ ?_
    · exact decide_eq_true rfl
    · intro t ht hsame
      obtain ⟨g, hg, rfl⟩ := List.mem_map.1 ht
      rw [h.eq_of_sameName (hfields g hg) (hfields f hf) hsame]
  simp only [Function.comp, hfind]

/-- The record of a row that shows declared fields. -/
theorem recordOf_shown (h : Kept c l) {fields : List String} (hnodup : fields.Nodup)
    (hfields : ∀ f ∈ fields, f ∈ c.fieldNames) (row : Row) :
    recordOf c (l.shown fields) row =
      fields.map fun f => (f, shown c f (row.read (fieldReference f))) := by
  rw [recordOf, shown_eq h hnodup hfields, List.map_map]
  rfl

/-- What stands under a field in the record of a row that shows it. -/
theorem get?_recordOf (h : Kept c l) {fields : List String} (hnodup : fields.Nodup)
    (hfields : ∀ f ∈ fields, f ∈ c.fieldNames) (row : Row) {f : String} (hf : f ∈ fields) :
    Record.get? (recordOf c (l.shown fields) row) f =
      some (shown c f (row.read (fieldReference f))) := by
  rw [recordOf_shown h hnodup hfields, Record.get?]
  clear hnodup hfields
  induction fields with
  | nil => exact nomatch hf
  | cons g rest ih =>
    rw [List.map_cons]
    by_cases hg : f = g
    · rw [hg, List.lookup_cons_self]
    · rw [List.lookup_cons, beq_false_of_ne hg]
      exact ih ((List.mem_cons.1 hf).resolve_left hg)

/-- A field of the record of a row that shows it. -/
theorem field_recordOf (h : Kept c l) {fields : List String} (hnodup : fields.Nodup)
    (hfields : ∀ f ∈ fields, f ∈ c.fieldNames) (row : Row) {f : String} (hf : f ∈ fields) :
    Record.field (recordOf c (l.shown fields) row) f =
      shown c f (row.read (fieldReference f)) := by
  rw [Record.field, get?_recordOf h hnodup hfields row hf, Option.getD_some]

/-! ## Statements -/

/-- A statement that names a collection of the catalog and declared fields only is refused for its
bounds alone. -/
theorem check_of_declared (h : Kept c l) {s : Statement} (htable : s.table = c.name)
    (hnames : ∀ f ∈ s.names, f ∈ c.fieldNames) :
    s.check = if s.keepsBounds then .ok () else .error .unavailable := by
  have hstatable : (s.table :: s.names).all isStatable = true := by
    rw [List.all_cons, htable, h.table_statable, Bool.true_and, List.all_eq_true]
    exact fun f hf => (h.field_statable (hnames f hf)).1
  have hquotable : s.names.all isQuotable = true := by
    rw [List.all_eq_true]
    exact fun f hf => (h.field_statable (hnames f hf)).2
  rw [Statement.check, hstatable, hquotable]
  rfl

end SchoolCatalog.Store
