import SchoolCatalog.Proofs.Query.Filters
import SchoolCatalog.Proofs.Store.Comparison
import SchoolCatalog.Proofs.Store.Sorting

/-!
# Rows that filters accept

Which rows satisfy the condition of a filter, told by the values that the filter asks for and the value
that a row holds. For values of the field's kind the two are compared as what they are; on the instant of
creation every value is a text, and how it compares depends on whether it looks like a number.

Results:
1. `holds_condition`: a row satisfies the condition of a filter if and only if the filter accepts it.
2. `holds_dated`: what filters on the instant of creation do.
3. `keepsBounds_of_few`, `exceedsBounds_of_many`: which filters keep a statement within bounds.
-/

namespace SchoolCatalog

open Store

/-! ## Kinds -/

/-- Whether a value is of a kind that a column can be asked for: an integer has 64 bits, and a fraction is
no NaN. -/
def Kind.fits : Kind → Datum → Bool
  | text, .text _ => true
  | flag, .bool _ => true
  | integer, .int i => Number.fitsWord i
  | integer, .real x => !x.isNaN
  | number, .int i => Number.fitsWord i
  | number, .real x => !x.isNaN
  | _, _ => false

namespace Filter

/-- A filter on a visible field, but for the instant of creation, that asks for values of its kind. -/
structure Fits (c : Collection) (f : Filter) : Prop where
  visible : f.field ∈ c.visibleFields
  undated : f.field ≠ "created_at"
  typed : ∀ d ∈ f.operands c, (c.kind? f.field).any (·.fits d) = true

instance (c : Collection) : DecidablePred (Fits c) := fun f =>
  decidable_of_iff (f.field ∈ c.visibleFields ∧ f.field ≠ "created_at" ∧
      ∀ d ∈ f.operands c, (c.kind? f.field).any (·.fits d) = true)
    ⟨fun h => ⟨h.1, h.2.1, h.2.2⟩, fun h => ⟨h.visible, h.undated, h.typed⟩⟩

/-- A filter accepts what stands in the relation of its operator to a value that it asks for, and accepts
nothing at all if it asks for what is different. -/
def Accepts (c : Collection) (f : Filter) (cell : Cell) : Prop :=
  (f.operator = .ne ∧ cell = .null) ∨ ∃ d ∈ f.operands c, Matches f.operator cell d

end Filter

/-- A value of a kind other than text lies on the line of numbers. -/
theorem place_of_fits {kind : Kind} {d : Datum} (hkind : kind ≠ .text) (h : kind.fits d = true) :
    ∃ x, d.place? = some x := by
  cases d with
  | bool b => exact ⟨_, rfl⟩
  | int i => exact ⟨_, rfl⟩
  | real x =>
    cases x with
    | nan => cases kind <;> exact nomatch h
    | infinite negative => exact ⟨_, rfl⟩
    | finite negative units => exact ⟨_, rfl⟩
  | text s =>
    cases kind with
    | text => exact absurd rfl hkind
    | _ => exact nomatch h
  | _ => cases kind <;> exact nomatch h

namespace Store

variable {c : Collection} {l : Layout} {row : Row} {f : Filter}

/-- Fields of texts are columns of texts, and other fields columns of numbers. -/
theorem Kept.affinity_kind (k : Kept c l) {field : String} (hvisible : field ∈ c.visibleFields)
    (hundated : field ≠ "created_at") {kind : Kind} (hkind : c.kind? field = some kind) :
    (kind = .text → l.affinity (fieldReference field) = .text) ∧
      (kind ≠ .text → l.affinity (fieldReference field) = .integer ∨
        l.affinity (fieldReference field) = .real) := by
  have hall : ∀ field ∈ c.visibleFields, field ≠ "created_at" → ∀ kind ∈ c.kind? field,
      (kind = .text → l.affinity (fieldReference field) = .text) ∧
        (kind ≠ .text → l.affinity (fieldReference field) = .integer ∨
          l.affinity (fieldReference field) = .real) := by
    cases k <;> decide
  exact hall field hvisible hundated kind hkind

/-- A field can be followed by an operator in a key. -/
theorem Kept.opening (k : Kept c l) {field : String} (hvisible : field ∈ c.visibleFields) :
    ListRequest.IsOpening field := by
  have hall : ∀ field ∈ c.visibleFields,
      field ≠ "" ∧ (field.toList.all fun ch => !(ch == '[' || ch == ']')) = true := by
    cases k <;> decide
  exact hall field hvisible

/-- A column that holds what it should is read so by its field. -/
theorem Kept.holds_read (k : Kept c l) (hrow : row.Holds l) {field : String}
    (hvisible : field ∈ c.visibleFields) :
    (l.affinity (fieldReference field)).Holds (row.read (fieldReference field)) := by
  have hfield := visible_subset hvisible
  rw [k.fieldNames_eq, List.mem_cons] at hfield
  rw [fieldReference]
  by_cases hid : field = "id"
  · rw [if_pos hid]
    exact .int row.id
  · rw [if_neg hid]
    obtain ⟨col, hcol, rfl⟩ := List.mem_map.1 (hfield.resolve_left hid)
    rw [Layout.affinity, k.column?_eq hcol]
    exact hrow col hcol

/-- The values of a fitting filter suit the column that it asks about. -/
theorem asks_of_fits (k : Kept c l) (h : f.Fits c) {d : Datum} (hd : d ∈ f.operands c) :
    (l.affinity (fieldReference f.field)).Asks d := by
  obtain ⟨kind, hdeclared, hfits⟩ := (Option.any_eq_true _ _).1 (h.typed d hd)
  obtain ⟨htext, hnumber⟩ := k.affinity_kind h.visible h.undated hdeclared
  by_cases hkind : kind = .text
  · subst hkind
    cases d with
    | text s => rw [htext rfl]; exact .text s
    | _ => exact nomatch hfits
  · obtain ⟨x, hx⟩ := place_of_fits hkind hfits
    exact .number (hnumber hkind) hx

theorem fitsWord_of_fits (h : f.Fits c) : (f.condition c).FitsWord := by
  rw [Condition.FitsWord, f.operands_condition]
  rintro d hd i rfl
  obtain ⟨kind, _, hfits⟩ := (Option.any_eq_true _ _).1 (h.typed _ hd)
  cases kind with
  | integer => exact hfits
  | number => exact hfits
  | _ => cases hfits

/-! ## Conditions -/

/-- A condition on a visible field looks at its column. -/
theorem Kept.resolve_visible (k : Kept c l) {field : String} (hvisible : field ∈ c.visibleFields) :
    (if c.isQueryable field then some field else none).map l.resolve = some (fieldReference field) := by
  rw [isQueryable_of_visible hvisible, if_pos rfl, Option.map_some,
    k.resolve_field (visible_subset hvisible)]

/-- Whether a row satisfies a condition with one value: by how its cell is ordered to the value, and also
where there is nothing in the cell and what is different is asked for. -/
theorem holds_single {field : String} (k : Kept c l) (hvisible : field ∈ c.visibleFields)
    {operator : Operator} (hone : operator ≠ .oneOf) {d : Datum} {v : Cell} (hv : Cell.bind d = .ok v) :
    Condition.holds c l row ⟨field, operator, d⟩ = true ↔
      (operator = .ne ∧ (row.read (fieldReference field)).isNull = true) ∨
        ∃ o, decided (l.affinity (fieldReference field)) (row.read (fieldReference field)) v = some o ∧
          operator.allows o = true := by
  have hcolumn := k.resolve_visible hvisible
  have horder : order? l row (some (fieldReference field)) v =
      decided (l.affinity (fieldReference field)) (row.read (fieldReference field)) v := rfl
  -- every operator but `ne` compiles to one comparison
  have hcompares (relation : Relation) (hoperator : ∀ o, relation.holds o = operator.allows o)
      (hclause : Condition.clause? c ⟨field, operator, d⟩ =
        some (.compares (if c.isQueryable field then some field else none) relation d)) :
      Condition.holds c l row ⟨field, operator, d⟩ = true ↔
        ∃ o, decided (l.affinity (fieldReference field)) (row.read (fieldReference field)) v = some o ∧
          operator.allows o = true := by
    rw [Condition.holds, Condition.test, hclause]
    dsimp only
    rw [Test.ofClause, hv, hcolumn]
    dsimp only [Except.map, Option.map, Test.holds]
    rw [horder]
    cases decided (l.affinity (fieldReference field)) (row.read (fieldReference field)) v with
    | none => simp
    | some o => simp [hoperator]
  have hdiffers (hne : operator = .ne) : Condition.holds c l row ⟨field, .ne, d⟩ = true ↔
      (row.read (fieldReference field)).isNull = true ∨
        ∃ o, decided (l.affinity (fieldReference field)) (row.read (fieldReference field)) v = some o ∧
          Operator.ne.allows o = true := by
    rw [Condition.holds, Condition.test, Condition.clause?]
    dsimp only
    rw [Test.ofClause, hv, hcolumn]
    dsimp only [Except.map, Option.map, Test.holds]
    rw [horder]
    cases decided (l.affinity (fieldReference field)) (row.read (fieldReference field)) v with
    | none => simp
    | some o => cases o <;> simp [Operator.allows]
  cases operator with
  | oneOf => exact absurd rfl hone
  | ne => simpa using hdiffers rfl
  | eq => simpa using hcompares .equal (fun o => by cases o <;> rfl) rfl
  | gt => simpa using hcompares .greater (fun o => by cases o <;> rfl) rfl
  | gte => simpa using hcompares .greaterEqual (fun o => by cases o <;> rfl) rfl
  | lt => simpa using hcompares .less (fun o => by cases o <;> rfl) rfl
  | lte => simpa using hcompares .lessEqual (fun o => by cases o <;> rfl) rfl

/-- A row satisfies a condition with several values if its cell equals one of them. -/
theorem holds_among {field : String} (k : Kept c l) (hvisible : field ∈ c.visibleFields)
    {items : List Datum} (hplain : ∀ d ∈ items, d.IsPlain) (hfits : ∀ d ∈ items, d.FitsWord) :
    Condition.holds c l row ⟨field, .oneOf, .list items⟩ = true ↔
      ∃ d ∈ items, ∃ v, Cell.bind d = .ok v ∧
        decided (l.affinity (fieldReference field)) (row.read (fieldReference field)) v = some .eq := by
  have hcolumn := k.resolve_visible hvisible
  have hclause : Condition.clause? c ⟨field, .oneOf, .list items⟩ = some (if items.isEmpty then .never
      else .among (if c.isQueryable field then some field else none) items) := rfl
  rw [Condition.holds, Condition.test, hclause]
  dsimp only
  cases hempty : items.isEmpty with
  | true =>
    rw [List.isEmpty_iff.1 hempty]
    constructor
    · intro hnever
      cases hnever
    · rintro ⟨_, hnone, _⟩
      cases hnone
  | false =>
    obtain ⟨cells, hcells⟩ := (SucceedsIf.mapM fun d hd => bind_succeeds (hplain d hd)).1 hfits
    obtain ⟨hback, hforth⟩ := mapM_ok hcells
    rw [if_neg Bool.false_ne_true, Test.ofClause, hcells, hcolumn]
    show (cells.any fun v => decide (decided _ _ v = some .eq)) = true ↔ _
    rw [List.any_eq_true]
    constructor
    · rintro ⟨v, hv, hequal⟩
      obtain ⟨d, hd, hbind⟩ := hback v hv
      exact ⟨d, hd, v, hbind, of_decide_eq_true hequal⟩
    · rintro ⟨d, hd, v, hbind, hequal⟩
      obtain ⟨w, hw, hsame⟩ := hforth d hd
      cases hbind.symm.trans hsame
      exact ⟨v, hw, decide_eq_true hequal⟩

/-- A row satisfies the condition of a filter if and only if the filter accepts what the row holds. -/
theorem holds_condition (k : Kept c l) (h : f.Fits c) (hrow : row.Holds l) (hproper : row.Proper) :
    Condition.holds c l row (f.condition c) = true ↔ f.Accepts c (row.read (fieldReference f.field)) := by
  have hholds := k.holds_read hrow h.visible
  have hplain : ∀ d ∈ f.operands c, d.IsPlain := by
    intro d hd
    obtain ⟨item, _, rfl⟩ := List.mem_map.1 hd
    exact coerce_plain c f.field item
  have hfits : ∀ d ∈ f.operands c, d.FitsWord := by
    rw [← f.operands_condition]
    exact fitsWord_of_fits h
  have hmatches {d : Datum} (hd : d ∈ f.operands c) {v : Cell} (hv : Cell.bind d = .ok v) :
      Matches f.operator (row.read (fieldReference f.field)) d ↔ ∃ o,
        decided (l.affinity (fieldReference f.field)) (row.read (fieldReference f.field)) v = some o ∧
          f.operator.allows o = true :=
    matches_iff hholds (hproper _) (asks_of_fits k h hd) hv f.operator
  rw [Filter.Accepts]
  by_cases hone : f.operator = .oneOf
  · have hcondition : f.condition c = ⟨f.field, .oneOf, .list (f.operands c)⟩ :=
      f.condition_among c hone
    rw [hcondition, holds_among k h.visible hplain hfits]
    simp only [hone, reduceCtorEq, false_and, false_or]
    refine exists_congr fun d => and_congr_right fun hd => ?_
    obtain ⟨v, hv⟩ := (bind_succeeds (hplain d hd)).1 (hfits d hd)
    rw [← hone, hmatches hd hv]
    constructor
    · rintro ⟨w, hw, hequal⟩
      cases hv.symm.trans hw
      exact ⟨_, hequal, by rw [hone]; rfl⟩
    · rintro ⟨o, ho, hallows⟩
      rw [hone] at hallows
      exact ⟨v, hv, ho.trans (congrArg some (of_decide_eq_true hallows))⟩
  · obtain ⟨d, hoperands, hcondition⟩ := f.condition_single c hone
    have hd : d ∈ f.operands c := by rw [hoperands]; exact List.mem_singleton_self d
    obtain ⟨v, hv⟩ := (bind_succeeds (hplain d hd)).1 (hfits d hd)
    simp only [hoperands, List.mem_singleton, exists_eq_left]
    rw [hcondition, holds_single k h.visible hone hv, hmatches hd hv, Cell.isNull_iff]

/-! ## Instants of creation -/

/-- What a filter on the instant of creation accepts of a stamp. A text that looks like a number is one
there, and every text is greater than every number; any other text is compared as it stands. -/
def AcceptsStamp (operator : Operator) (s stamp : String) : Prop :=
  match Number.readStored? s with
  | some _ => operator = .ne ∨ operator = .gt ∨ operator = .gte
  | none => operator.Relates stamp s

/-- The instant of creation is a text to requests, and stands in a column of instants. -/
theorem Kept.created (k : Kept c l) : "created_at" ∈ c.visibleFields ∧
    c.kind? "created_at" = some .text ∧
    l.affinity (fieldReference "created_at") = .numeric := by
  cases k <;> decide

/-- What filters on the instant of creation do. -/
theorem holds_dated (k : Kept c l) (hrow : row.Holds l) {operator : Operator}
    (hone : operator ≠ .oneOf) (s : String) :
    ∃ stamp, IsStamp stamp ∧ row.read (fieldReference "created_at") = .text stamp ∧
      (Condition.holds c l row ⟨"created_at", operator, .text s⟩ = true ↔
        AcceptsStamp operator s stamp) := by
  obtain ⟨hvisible, _, haffinity⟩ := k.created
  have hholds := k.holds_read hrow hvisible
  rw [haffinity] at hholds
  generalize hcell : row.read (fieldReference "created_at") = cell at hholds
  cases hholds with
  | @stamp stamp hstamp =>
    refine ⟨stamp, hstamp, rfl, ?_⟩
    rw [holds_single k hvisible hone (v := .text s) rfl, haffinity, hcell]
    have hdecided : decided .numeric (.text stamp) (.text s) =
        some ((Cell.text stamp).compare (Affinity.toNumeric (.text s))) := rfl
    have hgreater : operator.allows .gt = true ↔ operator = .ne ∨ operator = .gt ∨ operator = .gte := by
      cases operator <;> simp [Operator.allows]
    simp only [Cell.isNull, Bool.false_eq_true, and_false, false_or, hdecided, Option.some.injEq,
      exists_eq_left']
    rw [AcceptsStamp, Affinity.toNumeric]
    cases Number.readStored? s with
    | none => exact (Operator.relates_iff (Cell.compare_texts stamp s) operator).symm
    | some n =>
      -- every text ranks above every number, whatever number this is
      cases n with
      | whole i => exact hgreater
      | fraction x =>
        rcases Affinity.wholeIfPossible_cases x with hreal | ⟨i, _, hint, _⟩
        · dsimp only
          rw [hreal]
          exact hgreater
        · dsimp only
          rw [hint]
          exact hgreater

/-! ## Bounds -/

/-- Each clause that is joined nests an expression at most one deeper. -/
theorem staysShallow_of_few {x : Nesting} {clauses : List Clause}
    (h : max x.depth 3 + clauses.length ≤ Nesting.greatestDepth) :
    x.staysShallow clauses = true := by
  induction clauses generalizing x with
  | nil =>
    have hdepth : x.depth ≤ Nesting.greatestDepth := by
      rw [List.length_nil] at h
      omega
    exact decide_eq_true hdepth
  | cons clause rest ih =>
    rw [List.length_cons] at h
    rw [Nesting.staysShallow, Bool.and_eq_true, decide_eq_true_eq]
    refine ⟨by omega, ih ?_⟩
    -- joining adds one to the deeper of the two, and a clause of its own is at most three deep
    have hclause := depth_ofClause clause
    rw [Nesting.join]
    split
    · exact Nat.le_trans (by simp only; omega) h
    · simp only
      omega

theorem canJoin_of_few {clauses : List Clause} (h : clauses.length + 2 ≤ Nesting.greatestDepth) :
    canJoin clauses = true := by
  cases clauses with
  | nil => rfl
  | cons clause rest =>
    rw [List.length_cons] at h
    have hclause := depth_ofClause clause
    exact staysShallow_of_few (by omega)

/-- Each clause that is joined nests an expression at least one deeper, unless it never holds. -/
theorem depth_of_staysShallow {x : Nesting} {clauses : List Clause} (hx : x.never = false)
    (hclauses : ∀ clause ∈ clauses, (Nesting.ofClause clause).never = false)
    (h : x.staysShallow clauses = true) : x.depth + clauses.length ≤ Nesting.greatestDepth := by
  induction clauses generalizing x with
  | nil => exact of_decide_eq_true h
  | cons clause rest ih =>
    rw [Nesting.staysShallow, Bool.and_eq_true] at h
    have hjoin : x.join (Nesting.ofClause clause) =
        ⟨max x.depth (Nesting.ofClause clause).depth + 1, false⟩ := by
      rw [Nesting.join, hx, hclauses clause (List.mem_cons_self ..)]
      rfl
    rw [hjoin] at h
    have hrest := ih rfl (fun other hother => hclauses other (List.mem_cons_of_mem clause hother)) h.2
    simp only at hrest
    rw [List.length_cons]
    omega

theorem canJoin_of_many {clauses : List Clause}
    (hclauses : ∀ clause ∈ clauses, (Nesting.ofClause clause).never = false)
    (h : Nesting.greatestDepth ≤ clauses.length) : canJoin clauses = false := by
  cases clauses with
  | nil => exact absurd h (by decide)
  | cons clause rest =>
    rw [Bool.eq_false_iff]
    intro hshallow
    have hrest := depth_of_staysShallow (hclauses clause (List.mem_cons_self ..))
      (fun other hother => hclauses other (List.mem_cons_of_mem clause hother)) hshallow
    have hdepth : 2 ≤ (Nesting.ofClause clause).depth := by
      have hnever := hclauses clause (List.mem_cons_self ..)
      cases clause with
      | never => exact nomatch hnever
      | differs column value => exact (by decide : 2 ≤ 3)
      | compares column relation value => exact Nat.le_refl 2
      | among column candidates =>
        show 2 ≤ if candidates.length = 1 then 3 else 2
        split <;> decide
    rw [List.length_cons] at h
    omega

/-- How many parameters compiled conditions take. -/
theorem parameters_clauses {conditions : List Condition} (hplain : ∀ cond ∈ conditions, cond.IsPlain)
    {clauses : List Clause} (h : Condition.clauses? c conditions = some clauses) :
    clauses.length = conditions.length ∧
      (clauses.map fun clause => clause.parameters.length) =
        conditions.map fun cond => cond.operands.length := by
  induction conditions generalizing clauses with
  | nil =>
    cases h
    exact ⟨rfl, rfl⟩
  | cons cond rest ih =>
    obtain ⟨clause, tail, hclause, htail, rfl⟩ := clauses?_cons.1 h
    obtain ⟨hlength, hparameters⟩ :=
      ih (fun other hother => hplain other (List.mem_cons_of_mem cond hother)) htail
    obtain ⟨_, hsame, hone, _⟩ :=
      Condition.clause?_of_plain (c := c) (hplain cond (List.mem_cons_self ..))
    cases hclause.symm.trans hsame
    exact ⟨congrArg (· + 1) hlength, by rw [List.map_cons, List.map_cons, hone, hparameters]⟩

/-- Few conditions with few values, in an order of few keys, keep a statement within bounds. -/
theorem keepsBounds_of_few (k : Kept c l) {s : Selection}
    (hplain : ∀ cond ∈ s.conditions, cond.IsPlain)
    (hfew : s.conditions.length + 2 ≤ Nesting.greatestDepth)
    (hvalues : (s.conditions.map fun cond => cond.operands.length).sum + 2 ≤
      Statement.greatestParameters)
    (hkeys : s.sort.length < Statement.greatestWidth) : s.keepsBounds c = true := by
  obtain ⟨clauses, hclauses⟩ := Condition.clauses?_of_plain (c := c) hplain
  obtain ⟨hlength, hparameters⟩ := parameters_clauses hplain hclauses
  rw [Selection.keepsBounds, hclauses, Option.all_some]
  refine keepsBounds_iff.2 ⟨?_, ?_, canJoin_of_few (by show clauses.length + 2 ≤ _; omega), ?_⟩
  · exact Nat.le_trans (columns_length k s.projection s.includeHidden) (by decide)
  · show (c.orderKeys s.sort).length ≤ _
    have hfilter := List.length_filter_le (fun key => c.hasField key.field) s.sort
    rw [Collection.orderKeys, List.length_append]
    split
    · simp only [List.length_nil]
      omega
    · simp only [List.length_singleton]
      omega
  · show (clauses.map _).foldl (· + ·) s.windowParameters ≤ _
    have hwindow := windowParameters_le s
    have hsum : (clauses.map fun clause => clause.parameters.length).foldl (· + ·) s.windowParameters =
        s.windowParameters + (s.conditions.map fun cond => cond.operands.length).sum := by
      rw [List.foldl_eq_apply_foldr, hparameters]
      rfl
    rw [hsum]
    omega

/-- Many conditions that ask for something exceed the bounds of a statement. -/
theorem exceedsBounds_of_many {s : Selection} (hplain : ∀ cond ∈ s.conditions, cond.IsPlain)
    (hasking : ∀ cond ∈ s.conditions, cond.operands ≠ [])
    (hmany : Nesting.greatestDepth ≤ s.conditions.length) : s.keepsBounds c = false := by
  obtain ⟨clauses, hclauses⟩ := Condition.clauses?_of_plain (c := c) hplain
  obtain ⟨hlength, hparameters⟩ := parameters_clauses hplain hclauses
  have hnever : ∀ clause ∈ clauses, (Nesting.ofClause clause).never = false := by
    intro clause hclause
    have hcount : clause.parameters.length ∈ s.conditions.map fun cond => cond.operands.length := by
      rw [← hparameters]
      exact List.mem_map_of_mem hclause
    obtain ⟨cond, hcond, hsame⟩ := List.mem_map.1 hcount
    cases clause with
    | never => exact absurd (List.length_eq_zero_iff.1 hsame) (hasking cond hcond)
    | _ => rfl
  rw [Selection.keepsBounds, hclauses, Option.all_some, Bool.eq_false_iff]
  intro hkeeps
  have hjoin : canJoin clauses = true := (keepsBounds_iff.1 hkeeps).2.2.1
  rw [canJoin_of_many hnever (hlength ▸ hmany)] at hjoin
  exact nomatch hjoin

end Store
end SchoolCatalog
