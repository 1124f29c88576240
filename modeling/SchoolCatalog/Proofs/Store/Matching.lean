import SchoolCatalog.Proofs.Query.Request
import SchoolCatalog.Proofs.Store.Finding

/-!
# Rows that match

Which rows satisfy conditions that compare with texts, flags and numbers, as those of a list request
do. Such a condition can always be compiled, and the one thing that can be wrong with its values is an
integer of more than 64 bits, which cannot be bound. Within the bounds of statements, counting and
finding then answer with the rows that satisfy all conditions.

Results:
1. `test_succeeds`: a condition is refused for integers of more than 64 bits alone.
2. `counted_eq`: counting counts the rows that match, unless a condition is refused.
3. `found_eq`: finding sorts the rows that match and cuts a window out of them.
-/

namespace SchoolCatalog

open Store

/-! ## Steps with one way to fail -/

section Steps

variable {α β γ ε : Type} {fault : ε} {p : Prop}

/-- A step succeeds where something holds, and has one way to fail where it does not. -/
def SucceedsIf (result : Except ε β) (fault : ε) (p : Prop) : Prop :=
  (p → ∃ b, result = .ok b) ∧ (¬ p → result = .error fault)

theorem SucceedsIf.map {result : Except ε β} (h : SucceedsIf result fault p) (f : β → γ) :
    SucceedsIf (result.map f) fault p := by
  constructor
  · intro hp
    obtain ⟨b, hb⟩ := h.1 hp
    exact ⟨f b, by rw [hb]; rfl⟩
  · intro hp
    rw [h.2 hp]
    rfl

theorem SucceedsIf.mapM {f : α → Except ε β} {P : α → Prop} {items : List α}
    (h : ∀ a ∈ items, SucceedsIf (f a) fault (P a)) :
    SucceedsIf (items.mapM f) fault (∀ a ∈ items, P a) := by
  induction items with
  | nil => exact ⟨fun _ => ⟨[], rfl⟩, fun hnone => absurd (fun a ha => nomatch ha) hnone⟩
  | cons a rest ih =>
    obtain ⟨hok, herror⟩ := h a (List.mem_cons_self ..)
    have hrest := ih fun b hb => h b (List.mem_cons_of_mem a hb)
    constructor
    · intro hall
      obtain ⟨b, hb⟩ := hok (hall a (List.mem_cons_self ..))
      obtain ⟨bs, hbs⟩ := hrest.1 fun d hd => hall d (List.mem_cons_of_mem a hd)
      exact ⟨b :: bs, mapM_cons_ok hb hbs⟩
    · intro hsome
      rw [List.mapM_cons]
      by_cases ha : P a
      · obtain ⟨b, hb⟩ := hok ha
        have htail : rest.mapM f = .error fault := hrest.2 fun hall =>
          hsome fun d hd => (List.mem_cons.1 hd).elim (fun hda => hda ▸ ha) (hall d)
        rw [hb, htail]
        rfl
      · rw [herror ha]
        rfl

end Steps

/-! ## Values -/

/-- An integer that is bound has 64 bits. -/
def Datum.FitsWord (d : Datum) : Prop := ∀ i, d = .int i → Number.fitsWord i = true

instance : DecidablePred Datum.FitsWord
  | .int i => decidable_of_iff (Number.fitsWord i = true)
      ⟨fun h _ hi => by cases hi; exact h, fun h => h i rfl⟩
  | .null => .isTrue fun _ h => nomatch h
  | .bool _ => .isTrue fun _ h => nomatch h
  | .real _ => .isTrue fun _ h => nomatch h
  | .text _ => .isTrue fun _ h => nomatch h
  | .broken _ => .isTrue fun _ h => nomatch h
  | .bytes _ => .isTrue fun _ h => nomatch h
  | .list _ => .isTrue fun _ h => nomatch h
  | .dict _ => .isTrue fun _ h => nomatch h

theorem bind_succeeds {d : Datum} (h : d.IsPlain) :
    SucceedsIf (Cell.bind d) .outOfRange d.FitsWord := by
  cases h with
  | text s => exact ⟨fun _ => ⟨_, rfl⟩, fun hfits => absurd (fun _ hi => nomatch hi) hfits⟩
  | bool b => exact ⟨fun _ => ⟨_, rfl⟩, fun hfits => absurd (fun _ hi => nomatch hi) hfits⟩
  | real x => exact ⟨fun _ => ⟨_, rfl⟩, fun hfits => absurd (fun _ hi => nomatch hi) hfits⟩
  | int i =>
    rw [Cell.bind]
    constructor
    · intro hfits
      exact ⟨_, if_pos (hfits i rfl)⟩
    · intro hfits
      refine if_neg fun hword => hfits fun j hj => ?_
      cases hj
      exact hword

/-! ## Conditions -/

namespace Condition

variable {c : Collection} {l : Layout} {cond : Condition} {conditions : List Condition}

/-- The values that a condition compares with. -/
def operands (cond : Condition) : List Datum :=
  match cond.value with
  | .list items => items
  | d => [d]

/-- Every integer that a condition compares with has 64 bits. -/
def FitsWord (cond : Condition) : Prop := ∀ d ∈ cond.operands, d.FitsWord

instance : DecidablePred FitsWord := fun cond =>
  inferInstanceAs (Decidable (∀ d ∈ cond.operands, d.FitsWord))

/-- The test of a condition on the rows of a table. -/
def test (c : Collection) (l : Layout) (cond : Condition) : Except Failure Test :=
  match cond.clause? c with
  | some clause => Test.ofClause l clause
  | none => .error .mistyped

/-- Whether a row satisfies a condition; none satisfies one that is refused. -/
def holds (c : Collection) (l : Layout) (row : Row) (cond : Condition) : Bool :=
  match cond.test c l with
  | .ok test => test.holds l row
  | .error _ => false

theorem clause?_of_plain (h : cond.IsPlain) : ∃ clause, cond.clause? c = some clause ∧
    clause.parameters = cond.operands ∧ ∀ d ∈ cond.operands, d.IsPlain := by
  cases h with
  | @single field operator value one plain =>
    have hoperands : operands ⟨field, operator, value⟩ = [value] := by
      cases plain <;> rfl
    have hplain : ∀ d ∈ [value], d.IsPlain := fun d hd => List.mem_singleton.1 hd ▸ plain
    rw [hoperands]
    cases operator with
    | oneOf => exact absurd rfl one
    | _ => exact ⟨_, rfl, rfl, hplain⟩
  | @among field items plain =>
    refine ⟨if items.isEmpty then .never
      else .among (if c.isQueryable field then some field else none) items, rfl, ?_, plain⟩
    cases items <;> rfl

theorem clauses?_of_plain (h : ∀ cond ∈ conditions, cond.IsPlain) :
    ∃ clauses, clauses? c conditions = some clauses := by
  induction conditions with
  | nil => exact ⟨[], rfl⟩
  | cons cond rest ih =>
    obtain ⟨clause, hclause, _⟩ := clause?_of_plain (c := c) (h cond (List.mem_cons_self ..))
    obtain ⟨clauses, hclauses⟩ := ih fun other hother => h other (List.mem_cons_of_mem cond hother)
    exact ⟨clause :: clauses, clauses?_cons.2 ⟨clause, clauses, hclause, hclauses, rfl⟩⟩

theorem ofClause_succeeds {clause : Clause} (h : ∀ d ∈ clause.parameters, d.IsPlain) :
    SucceedsIf (Test.ofClause l clause) .outOfRange (∀ d ∈ clause.parameters, d.FitsWord) := by
  have hone {d : Datum} (hd : d.IsPlain) {result : Except Failure Test}
      (hresult : SucceedsIf result .outOfRange d.FitsWord) :
      SucceedsIf result .outOfRange (∀ e ∈ [d], e.FitsWord) := by
    rwa [List.forall_mem_singleton]
  cases clause with
  | never => exact ⟨fun _ => ⟨_, rfl⟩, fun hnone => absurd (fun d hd => nomatch hd) hnone⟩
  | among column candidates => exact (SucceedsIf.mapM fun d hd => bind_succeeds (h d hd)).map _
  | differs column value =>
    have hvalue := h value (List.mem_singleton_self value)
    exact hone hvalue ((bind_succeeds hvalue).map _)
  | compares column relation value =>
    have hvalue := h value (List.mem_singleton_self value)
    exact hone hvalue ((bind_succeeds hvalue).map _)

/-- A condition is refused for integers of more than 64 bits alone. -/
theorem test_succeeds (c : Collection) (l : Layout) (h : cond.IsPlain) :
    SucceedsIf (cond.test c l) .outOfRange cond.FitsWord := by
  obtain ⟨clause, hclause, hparameters, hplain⟩ := clause?_of_plain (c := c) h
  rw [test, hclause, FitsWord, ← hparameters]
  exact ofClause_succeeds (hparameters ▸ hplain)

theorem tests_eq {clauses : List Clause} (h : clauses? c conditions = some clauses) :
    clauses.mapM (Test.ofClause l) = conditions.mapM (test c l) := by
  induction conditions generalizing clauses with
  | nil =>
    cases h
    rfl
  | cons cond rest ih =>
    obtain ⟨clause, tail, hclause, htail, rfl⟩ := clauses?_cons.1 h
    rw [List.mapM_cons, List.mapM_cons, ih htail, test, hclause]

/-- The tests of conditions say of a row whether it satisfies all of them. -/
theorem all_tests {tests : List Test} (h : conditions.mapM (test c l) = .ok tests) (row : Row) :
    tests.all (Test.holds l row) = conditions.all (holds c l row) := by
  induction conditions generalizing tests with
  | nil =>
    cases h
    rfl
  | cons cond rest ih =>
    rw [List.mapM_cons] at h
    obtain ⟨head, hhead, h⟩ := bind_eq_ok.1 h
    obtain ⟨tail, htail, h⟩ := bind_eq_ok.1 h
    cases h
    rw [List.all_cons, List.all_cons, ih htail, holds, hhead]

end Condition

namespace Store

variable {db : Database} {c : Collection} {l : Layout} {s : Selection} {conditions : List Condition}
  {clauses : List Clause}

/-- The rows that satisfy all conditions. -/
def Database.matching (db : Database) (c : Collection) (l : Layout) (conditions : List Condition) :
    List Row :=
  (db.rows l.name).filter fun row => conditions.all (Condition.holds c l row)

/-- Whether the statement of a selection keeps within bounds. -/
def Selection.keepsBounds (s : Selection) (c : Collection) : Bool :=
  (Condition.clauses? c s.conditions).all fun clauses => (s.statement c clauses).keepsBounds

/-! ## Counting -/

theorem foldl_add_le (sizes : List Nat) {m n : Nat} (h : m ≤ n) :
    sizes.foldl (· + ·) m ≤ sizes.foldl (· + ·) n := by
  rw [List.foldl_eq_apply_foldr, List.foldl_eq_apply_foldr]
  exact Nat.add_le_add_right h _

/-- Counting takes no larger a statement than finding does. -/
theorem keepsBounds_count (h : (s.statement c clauses).keepsBounds = true) :
    ({ table := c.name, clauses } : Statement).keepsBounds = true := by
  obtain ⟨_, _, hjoin, hparameters⟩ := keepsBounds_iff.1 h
  exact keepsBounds_iff.2 ⟨Nat.zero_le _, Nat.zero_le _, hjoin,
    Nat.le_trans (foldl_add_le _ (Nat.zero_le _)) hparameters⟩

theorem meansCount_declared (k : Kept c l) {f : String} (hf : f ∈ c.fieldNames) :
    Database.meansCount l f = false := by
  unfold Database.meansCount
  rw [k.resolve_field hf, fieldReference]
  by_cases hid : f = "id"
  · rw [if_pos hid]
  · rw [if_neg hid]

/-- Counting counts the rows of a table that pass the tests. -/
theorem count_of_table {rows : List Row} (htable : db.readableTable c.name = .ok ⟨l, rows⟩)
    (k : Kept c l)
    (hclauses : ∀ clause ∈ clauses, ∀ f, columnOf? clause = some f → f ∈ c.fieldNames) :
    db.count c clauses = if ({ table := c.name, clauses } : Statement).keepsBounds then
        (clauses.mapM (Test.ofClause l)).map fun tests =>
          (rows.filter fun row => tests.all (Test.holds l row)).length
      else .error .unavailable := by
  have hnames : ∀ f ∈ ({ table := c.name, clauses } : Statement).names, f ∈ c.fieldNames := by
    intro f hf
    have hf : f ∈ clauses.filterMap columnOf? := by simpa [Statement.names] using hf
    obtain ⟨clause, hclause, hcolumn⟩ := List.mem_filterMap.1 hf
    exact hclauses clause hclause f hcolumn
  have hmeans : ({ table := c.name, clauses } : Statement).names.any (Database.meansCount l) = false :=
    List.any_eq_false.2 fun f hf => by rw [meansCount_declared k (hnames f hf)]; exact Bool.false_ne_true
  unfold Database.count
  dsimp only
  rw [check_of_declared k rfl hnames, htable]
  split
  next =>
    show (if ({ table := c.name, clauses } : Statement).names.any (Database.meansCount l) then _ else _) = _
    rw [hmeans]
    rfl
  next => rfl

/-- Counting counts the rows that pass the tests of all conditions. -/
theorem counted_eq (h : db.Standing) (k : Kept c l)
    (hclauses : Condition.clauses? c conditions = some clauses)
    (hbounds : ({ table := c.name, clauses } : Statement).keepsBounds = true) :
    db.counted c conditions = (conditions.mapM (Condition.test c l)).map fun _ =>
      (db.matching c l conditions).length := by
  rw [Database.counted, hclauses]
  dsimp only
  rw [count_of_table (h.readableTable_eq k) k fun clause hclause f hf =>
    columnOf?_declared hclauses hclause hf, if_pos hbounds, Condition.tests_eq hclauses]
  cases htests : conditions.mapM (Condition.test c l) with
  | error fault => rfl
  | ok tests =>
    show Except.ok (List.length _) = Except.ok (List.length _)
    rw [Database.matching]
    simp only [Condition.all_tests htests]

/-! ## Finding -/

/-- Finding sorts the rows that match and cuts a window out of them. -/
theorem found_eq (h : db.Standing) (k : Kept c l)
    (hclauses : Condition.clauses? c s.conditions = some clauses)
    (hbounds : (s.statement c clauses).keepsBounds = true) :
    db.found c s = (do
      let _ ← s.conditions.mapM (Condition.test c l)
      let bounds ← bindWindow s.skip s.limit
      .ok ((window bounds.1 bounds.2 (sortRows (rowKeys c s.sort) (db.matching c l s.conditions))).map
        (recordOf c (l.shown (columns c s.projection s.includeHidden))))) := by
  rw [Database.found, hclauses]
  dsimp only
  rw [select_eq h k fun clause hclause f hf => columnOf?_declared hclauses hclause hf, selected,
    if_pos hbounds, Condition.tests_eq hclauses]
  cases htests : s.conditions.mapM (Condition.test c l) with
  | error fault => rfl
  | ok tests =>
    show (bindWindow s.skip s.limit >>= fun bounds => Except.ok _) =
      (bindWindow s.skip s.limit >>= fun bounds => Except.ok _)
    rw [Database.matching]
    simp only [Condition.all_tests htests]

end Store
end SchoolCatalog
