import SchoolCatalog.Proofs.Query.Lexemes
import SchoolCatalog.Proofs.Store.Finding

/-!
# The text of compiled conditions

A list of conditions is compiled to a text and a list of parameters. The text is put together from
clauses that begin and end where a blank stands, so it is known by its clauses: each has one
placeholder for each value that its condition compares with, and no identifier but the column of its
condition. Nothing else of a condition reaches the text than its column, its operator and how many
values it compares with (`Condition.shape`).

Results:
1. `Clause.binds_whereText`: the placeholders and the identifiers of a text.
2. `isSome_compiled?`: which conditions are compiled at all.
3. `compiled?_slot`: where the placeholder of each parameter stands.
4. `compiled?_of_shape`: conditions of the same shape are compiled to the same text.
-/

namespace SchoolCatalog

open Lexeme

/-! ## Texts with placeholders -/

/-- A text that leaves no name open, with `n` placeholders and identifiers that are all among the
names. -/
structure Binds (names : List String) (text : String) (n : Nat) : Prop where
  whole : Whole text
  placeholders_eq : placeholders text = n
  mem_names : ∀ name ∈ identifiers text, name ∈ names

namespace Binds

variable {names : List String} {front text : String} {m n : Nat}

/-- A text of the program itself. -/
theorem fixed (hwhole : Whole text) (hplaceholders : placeholders text = n)
    (hidentifiers : identifiers text = []) : Binds names text n :=
  ⟨hwhole, hplaceholders, fun _ hname => absurd (hidentifiers ▸ hname) List.not_mem_nil⟩

theorem append (hfront : Binds names front m) (htext : Binds names text n) (hapart : Apart text) :
    Binds names (front ++ text) (m + n) where
  whole := hfront.whole.append htext.whole hapart
  placeholders_eq := by
    rw [placeholders_append hfront.whole hapart, hfront.placeholders_eq, htext.placeholders_eq]
  mem_names name hname := by
    rw [identifiers_append hfront.whole hapart, List.mem_append] at hname
    exact hname.elim (hfront.mem_names name) (htext.mem_names name)

theorem spaced (htext : Binds names text n) : Binds names (" " ++ text) n := by
  obtain ⟨hwhole, hplaceholders, hnames⟩ := htext
  refine ⟨?_, by rwa [placeholders, ofText_spaced], fun name hname => hnames name ?_⟩
  · rw [Whole, toList_spaced]
    exact hwhole
  · rwa [identifiers, ofText_spaced] at hname

theorem opened (htext : Binds names text n) : Binds names ("(" ++ text) n := by
  obtain ⟨hwhole, hplaceholders, hnames⟩ := htext
  have hchars : ("(" ++ text).toList = '(' :: text.toList := by
    rw [String.toList_append]
    rfl
  have hsame : ofText ("(" ++ text) = .mark '(' :: ofText text := by rw [ofText, hchars]; rfl
  refine ⟨?_, ?_, fun name hname => hnames name ?_⟩
  · rw [Whole, hchars]
    exact hwhole
  · rwa [placeholders, hsame, List.count_cons_of_ne (by decide)]
  · rwa [identifiers, hsame, List.filterMap_cons_none rfl] at hname

/-- Placeholders with commas between them, up to the closing bracket. -/
theorem listed {α : Type} {values : List α} (hne : values ≠ []) {front : String}
    (hlast : Binds names (front ++ "?)") 1) (hmore : Binds names (front ++ "?,") 1) :
    Binds names (front ++ ", ".intercalate (values.map fun _ => "?") ++ ")") values.length := by
  induction values generalizing front with
  | nil => exact absurd rfl hne
  | cons value rest ih =>
    cases rest with
    | nil => rwa [List.map_cons, List.map_nil, String.intercalate_singleton, String.append_assoc]
    | cons next rest =>
      have hlast : Binds names (" " ++ "?)") 1 := .fixed (by decide) (by decide) (by decide)
      have hnext : Binds names (" " ++ "?,") 1 := .fixed (by decide) (by decide) (by decide)
      have hrest := ih (List.cons_ne_nil _ _) hlast hnext
      have htext : front ++ ", ".intercalate ((value :: next :: rest).map fun _ => "?") ++ ")" =
          front ++ "?," ++ (" " ++ ", ".intercalate ((next :: rest).map fun _ => "?") ++ ")") := by
        rw [List.map_cons, List.map_cons, String.intercalate_cons_cons]
        simp only [← String.toList_inj, String.toList_append, List.append_assoc]
        rfl
      rw [htext, List.length_cons, Nat.add_comm]
      exact hmore.append hrest (.inr ⟨_, String.append_assoc⟩)

end Binds

namespace Clause

variable {names : List String} {clause : Clause}

/-- A column whose name is plain is one identifier. -/
theorem binds_columnText {column : Option String}
    (h : ∀ name, column = some name → name ∈ names ∧ '"' ∉ name.toList) :
    Binds names (columnText column) 0 := by
  cases column with
  | none => exact .fixed (by decide) (by decide) (by decide)
  | some name =>
    obtain ⟨hname, hplain⟩ := h name rfl
    refine ⟨whole_name hplain, ?_, fun other hother => ?_⟩
    · rw [columnText, placeholders, ofText_name hplain]
      rfl
    · rw [columnText, identifiers, ofText_name hplain] at hother
      exact List.mem_singleton.1 hother ▸ hname

/-- A clause has a placeholder for each of its parameters. -/
theorem binds_text (h : ∀ name, Store.columnOf? clause = some name → name ∈ names ∧ '"' ∉ name.toList) :
    Binds names clause.text clause.parameters.length := by
  cases clause with
  | never => exact .fixed (by decide) (by decide) (by decide)
  | among column candidates =>
    have hlist : Binds names ("IN (" ++ ", ".intercalate (candidates.map fun _ => "?") ++ ")")
        candidates.length := by
      cases candidates with
      | nil => exact .fixed (by decide) (by decide) (by decide)
      | cons candidate rest =>
        exact .listed (List.cons_ne_nil _ _) (.fixed (by decide) (by decide) (by decide))
          (.fixed (by decide) (by decide) (by decide))
    have htext : (among column candidates).text = columnText column ++
        (" " ++ ("IN (" ++ ", ".intercalate (candidates.map fun _ => "?") ++ ")")) := by
      simp only [text, ← String.toList_inj, String.toList_append, List.append_assoc]
      rfl
    rw [htext, parameters, ← Nat.zero_add candidates.length]
    exact (binds_columnText h).append hlist.spaced (.inr ⟨_, rfl⟩)
  | differs column value =>
    have hcolumn : Binds names (columnText column) 0 := binds_columnText h
    have hnull : Binds names " IS NULL OR" 0 := .fixed (by decide) (by decide) (by decide)
    have hvalue : Binds names " != ?)" 1 := .fixed (by decide) (by decide) (by decide)
    have htext : (differs column value).text =
        "(" ++ columnText column ++ " IS NULL OR" ++ (" " ++ columnText column) ++ " != ?)" := by
      simp only [text, ← String.toList_inj, String.toList_append, List.append_assoc]
      rfl
    rw [htext]
    exact ((hcolumn.opened.append hnull (.inr ⟨"IS NULL OR", by decide⟩)).append hcolumn.spaced
      (.inr ⟨_, rfl⟩)).append hvalue (.inr ⟨"!= ?)", by decide⟩)
  | compares column relation value =>
    have hsign : Binds names (" " ++ relation.sign) 0 := by
      cases relation <;> exact .fixed (by decide) (by decide) (by decide)
    have hvalue : Binds names " ?" 1 := .fixed (by decide) (by decide) (by decide)
    have htext : (compares column relation value).text =
        columnText column ++ (" " ++ relation.sign) ++ " ?" := by
      simp only [text, String.append_assoc]
    rw [htext]
    exact ((binds_columnText h).append hsign (.inr ⟨_, rfl⟩)).append hvalue (.inr ⟨"?", by decide⟩)

/-! ## Clauses together -/

/-- What further clauses add to a text. -/
def furtherText : List Clause → String
  | [] => ""
  | clause :: rest => " AND" ++ (" " ++ clause.text) ++ furtherText rest

theorem furtherText_append (front rest : List Clause) :
    furtherText (front ++ rest) = furtherText front ++ furtherText rest := by
  induction front with
  | nil => exact String.empty_append.symm
  | cons clause front ih =>
    rw [List.cons_append, furtherText, furtherText, ih]
    simp only [String.append_assoc]

theorem whereText_cons (clause : Clause) (rest : List Clause) :
    whereText (clause :: rest) = " WHERE" ++ (" " ++ clause.text) ++ furtherText rest := by
  have hfurther (clause : Clause) (rest : List Clause) :
      " AND ".intercalate ((clause :: rest).map text) = clause.text ++ furtherText rest := by
    induction rest generalizing clause with
    | nil => rw [List.map_cons, List.map_nil, String.intercalate_singleton, furtherText, String.append_empty]
    | cons next rest ih =>
      rw [List.map_cons, List.map_cons, String.intercalate_cons_cons, ← List.map_cons, ih, furtherText]
      simp only [← String.toList_inj, String.toList_append, List.append_assoc]
      rfl
  rw [whereText, List.isEmpty_cons, if_neg Bool.false_ne_true, hfurther]
  simp only [← String.toList_inj, String.toList_append, List.append_assoc]
  rfl

/-- The word that joins a clause to those before it. -/
def joint {α : Type} (front : List α) : String := if front.isEmpty then " WHERE" else " AND"

theorem whereText_split (front : List Clause) (clause : Clause) (rest : List Clause) :
    whereText (front ++ clause :: rest) =
      whereText front ++ joint front ++ (" " ++ clause.text) ++ furtherText rest := by
  cases front with
  | nil => rw [List.nil_append, whereText_cons]; rfl
  | cons first front =>
    rw [List.cons_append, whereText_cons, whereText_cons, furtherText_append, furtherText]
    simp only [joint, List.isEmpty_cons, Bool.false_eq_true, if_false, String.append_assoc]

/-- The placeholders of a text are as many as its parameters, and every identifier is a column of a
clause. -/
theorem binds_furtherText {clauses : List Clause}
    (h : ∀ clause ∈ clauses, ∀ name, Store.columnOf? clause = some name → name ∈ names ∧ '"' ∉ name.toList) :
    Binds names (furtherText clauses) (clauses.flatMap parameters).length ∧ Apart (furtherText clauses) := by
  induction clauses with
  | nil => exact ⟨.fixed (by decide) (by decide) (by decide), .inl rfl⟩
  | cons clause rest ih =>
    obtain ⟨hrest, hapart⟩ := ih fun other hother => h other (List.mem_cons_of_mem clause hother)
    have hword : Binds names " AND" 0 := .fixed (by decide) (by decide) (by decide)
    have hclause := binds_text (h clause (List.mem_cons_self ..))
    have hfront := hword.append hclause.spaced (.inr ⟨_, rfl⟩)
    rw [furtherText, List.flatMap_cons, List.length_append, ← Nat.zero_add (parameters clause).length]
    exact ⟨hfront.append hrest hapart,
      .append (.append (.inr ⟨"AND", by decide⟩) (.inr ⟨_, rfl⟩)) hapart⟩

theorem binds_whereText {clauses : List Clause}
    (h : ∀ clause ∈ clauses, ∀ name, Store.columnOf? clause = some name → name ∈ names ∧ '"' ∉ name.toList) :
    Binds names (whereText clauses) (clauses.flatMap parameters).length := by
  cases clauses with
  | nil => exact .fixed (by decide) (by decide) (by decide)
  | cons clause rest =>
    obtain ⟨hrest, hapart⟩ := binds_furtherText fun other hother =>
      h other (List.mem_cons_of_mem clause hother)
    have hword : Binds names " WHERE" 0 := .fixed (by decide) (by decide) (by decide)
    have hclause := binds_text (h clause (List.mem_cons_self ..))
    rw [whereText_cons, List.flatMap_cons, List.length_append, ← Nat.zero_add (parameters clause).length]
    exact (hword.append hclause.spaced (.inr ⟨_, rfl⟩)).append hrest hapart

/-- What stands in front of a clause has the placeholders of the clauses before it. -/
theorem binds_front {front : List Clause}
    (h : ∀ clause ∈ front, ∀ name, Store.columnOf? clause = some name → name ∈ names ∧ '"' ∉ name.toList) :
    Binds names (whereText front ++ joint front) (front.flatMap parameters).length := by
  have hwhere : Binds names " WHERE" 0 ∧ Apart " WHERE" :=
    ⟨.fixed (by decide) (by decide) (by decide), .inr ⟨"WHERE", by decide⟩⟩
  have hand : Binds names " AND" 0 ∧ Apart " AND" :=
    ⟨.fixed (by decide) (by decide) (by decide), .inr ⟨"AND", by decide⟩⟩
  have hjoint : Binds names (joint front) 0 ∧ Apart (joint front) := by
    cases front with
    | nil => exact hwhere
    | cons => exact hand
  exact (binds_whereText h).append hjoint.1 hjoint.2

end Clause

/-! ## Conditions -/

namespace Condition

variable {c : Collection} {cond : Condition} {conditions : List Condition}

/-- The text that conditions are compiled to, and its parameters. -/
def compiled? (c : Collection) (conditions : List Condition) : Option (String × List Datum) :=
  (clauses? c conditions).map fun clauses => (Clause.whereText clauses, clauses.flatMap Clause.parameters)

/-- The values that a condition compares with: for `in`, the candidates. -/
def bound? (cond : Condition) : Option (List Datum) :=
  match cond.operator with
  | .oneOf => candidates? cond.value
  | _ => some [cond.value]

/-- What the text of a condition depends on: its column, if the field may be looked at, its operator and
the number of values that it compares with. -/
structure Shape where
  column : Option String
  operator : Operator
  count : Option Nat
  deriving DecidableEq

def shape (c : Collection) (cond : Condition) : Shape where
  column := if c.isQueryable cond.field then some cond.field else none
  operator := cond.operator
  count := cond.bound?.map List.length

/-- The text of a condition's clause. -/
def clauseText? (c : Collection) (cond : Condition) : Option String := (cond.clause? c).map Clause.text

/-- The parameters of a clause are the values of its condition. -/
theorem bound?_of_clause? {clause : Clause} (h : cond.clause? c = some clause) :
    cond.bound? = some clause.parameters := by
  obtain ⟨field, operator, value⟩ := cond
  cases operator with
  | oneOf =>
    obtain ⟨candidates, hcandidates, rfl⟩ := Option.map_eq_some_iff.1 h
    show candidates? value = _
    rw [hcandidates]
    cases candidates <;> rfl
  | _ =>
    rw [← Option.some.inj h]
    rfl

theorem isSome_clause? : (cond.clause? c).isSome ↔ cond.bound?.isSome := by
  obtain ⟨field, operator, value⟩ := cond
  cases operator with
  | oneOf => exact Bool.eq_iff_iff.1 Option.isSome_map
  | _ => exact Iff.rfl

/-- Conditions are compiled exactly when each of them has values to compare with: only `in` can be given
a value that lists none. -/
theorem isSome_compiled? :
    (compiled? c conditions).isSome ↔ ∀ cond ∈ conditions, cond.bound?.isSome := by
  rw [compiled?, Option.isSome_map]
  induction conditions with
  | nil => exact ⟨fun _ _ hcond => absurd hcond List.not_mem_nil, fun _ => rfl⟩
  | cons cond rest ih =>
    rw [List.forall_mem_cons, ← ih, ← isSome_clause? (c := c)]
    constructor
    · intro h
      obtain ⟨clauses, hclauses⟩ := Option.isSome_iff_exists.1 h
      obtain ⟨clause, tail, hclause, hrest, -⟩ := Store.clauses?_cons.1 hclauses
      exact ⟨Option.isSome_of_eq_some hclause, Option.isSome_of_eq_some hrest⟩
    · rintro ⟨hclause, hrest⟩
      obtain ⟨clause, hclause⟩ := Option.isSome_iff_exists.1 hclause
      obtain ⟨tail, hrest⟩ := Option.isSome_iff_exists.1 hrest
      exact Option.isSome_of_eq_some (Store.clauses?_cons.2 ⟨clause, tail, hclause, hrest, rfl⟩)

/-- Conditions of the same shape have clauses of the same text. -/
theorem clauseText?_of_shape {other : Condition} (h : other.shape c = cond.shape c) :
    other.clauseText? c = cond.clauseText? c := by
  obtain ⟨field, operator, value⟩ := cond
  obtain ⟨field', operator', value'⟩ := other
  rw [shape, shape, Shape.mk.injEq] at h
  obtain ⟨hcolumn, rfl, hcount⟩ := h
  unfold clauseText? clause?
  dsimp only at hcolumn ⊢
  rw [hcolumn]
  cases operator' with
  | oneOf =>
    change (candidates? value').map List.length = (candidates? value).map List.length at hcount
    cases hvalue : candidates? value with
    | none =>
      rw [hvalue, Option.map_none, Option.map_eq_none_iff] at hcount
      rw [hcount]
    | some candidates =>
      rw [hvalue, Option.map_some] at hcount
      obtain ⟨candidates', hvalue', hlength⟩ := Option.map_eq_some_iff.1 hcount
      rw [hvalue']
      cases candidates with
      | nil => rw [List.eq_nil_of_length_eq_zero hlength]
      | cons candidate rest =>
        obtain ⟨candidate', rest', rfl⟩ := List.exists_cons_of_length_eq_add_one hlength
        simp only [Option.map_some, List.isEmpty_cons, Bool.false_eq_true, if_false, Clause.text,
          List.map_const', hlength]
  | _ => rfl

theorem isEmpty_of_clauses? {clauses : List Clause} (h : clauses? c conditions = some clauses) :
    conditions.isEmpty = clauses.isEmpty := by
  cases conditions with
  | nil =>
    cases h
    rfl
  | cons cond rest =>
    obtain ⟨clause, tail, _, _, rfl⟩ := Store.clauses?_cons.1 h
    rfl

/-- Conditions of the same shapes have clauses of the same texts. -/
theorem clauses?_of_shape {others : List Condition} {clauses : List Clause}
    (hshape : others.map (shape c) = conditions.map (shape c)) (h : clauses? c conditions = some clauses) :
    ∃ clauses', clauses? c others = some clauses' ∧ clauses'.map Clause.text = clauses.map Clause.text := by
  induction conditions generalizing others clauses with
  | nil =>
    rw [List.map_eq_nil_iff.1 hshape]
    exact ⟨clauses, h, rfl⟩
  | cons cond rest ih =>
    obtain ⟨other, others, rfl, hhead, htail⟩ := List.map_eq_cons_iff.1 hshape
    obtain ⟨clause, tail, hclause, hrest, rfl⟩ := Store.clauses?_cons.1 h
    have htext := clauseText?_of_shape hhead
    rw [clauseText?, clauseText?, hclause, Option.map_some] at htext
    obtain ⟨clause', hclause', htext⟩ := Option.map_eq_some_iff.1 htext
    obtain ⟨tail', hrest', htexts⟩ := ih htail hrest
    exact ⟨clause' :: tail', Store.clauses?_cons.2 ⟨clause', tail', hclause', hrest', rfl⟩,
      congrArg₂ List.cons htext htexts⟩

/-- The clause that a parameter belongs to, with the conditions and the clauses around it. -/
theorem clauses?_split {clauses : List Clause} (h : clauses? c conditions = some clauses) {i : Nat}
    (hi : i < (clauses.flatMap Clause.parameters).length) :
    ∃ before cond after front clause rest, conditions = before ++ cond :: after ∧
      clauses = front ++ clause :: rest ∧ clauses? c before = some front ∧
      cond.clause? c = some clause ∧ (front.flatMap Clause.parameters).length ≤ i ∧
      i < (front.flatMap Clause.parameters).length + clause.parameters.length ∧
      (clauses.flatMap Clause.parameters)[i]? =
        clause.parameters[i - (front.flatMap Clause.parameters).length]? := by
  induction conditions generalizing clauses i with
  | nil =>
    cases h
    exact nomatch hi
  | cons cond rest ih =>
    obtain ⟨clause, tail, hclause, hrest, rfl⟩ := Store.clauses?_cons.1 h
    rw [List.flatMap_cons, List.length_append] at hi
    by_cases hown : i < clause.parameters.length
    · exact ⟨[], cond, rest, [], clause, tail, rfl, rfl, rfl, hclause, Nat.zero_le i,
        by rwa [List.flatMap_nil, List.length_nil, Nat.zero_add],
        by rw [List.flatMap_cons, List.getElem?_append_left hown]; rfl⟩
    · -- the parameter belongs to a later clause
      have hi' : i - clause.parameters.length < (tail.flatMap Clause.parameters).length := by omega
      obtain ⟨before, cond', after, front, clause', rest', rfl, rfl, hfront, hclause', hle, hlt, hvalue⟩ :=
        ih hrest hi'
      refine ⟨cond :: before, cond', after, clause :: front, clause', rest', rfl, rfl,
        Store.clauses?_cons.2 ⟨clause, front, hclause, hfront, rfl⟩, hclause', ?_, ?_, ?_⟩
      · rw [List.flatMap_cons, List.length_append]
        omega
      · rw [List.flatMap_cons, List.length_append]
        omega
      · rw [List.flatMap_cons, List.getElem?_append_right (Nat.le_of_not_lt hown), hvalue,
          List.flatMap_cons, List.length_append, Nat.sub_sub]

/-- Compiled conditions have no column but a visible field. -/
theorem column_visible {clauses : List Clause} (h : clauses? c conditions = some clauses) {clause : Clause}
    (hclause : clause ∈ clauses) {name : String} (hname : Store.columnOf? clause = some name) :
    name ∈ c.visibleFields := by
  have hquery := Bool.and_eq_true_iff.1 (Store.columnOf?_queryable h hclause hname)
  exact List.mem_filter.2 ⟨Store.hasField_iff.1 hquery.1, hquery.2⟩

/-- The place of a parameter: its placeholder stands in the clause of the condition that compares with
it. In front of the clause stands what the conditions before it are compiled to, and the word that joins
it to them. -/
structure Slot (c : Collection) (conditions : List Condition) (text : String) (bound : List Datum)
    (i : Nat) where
  before : List Condition
  cond : Condition
  after : List Condition
  lead : String
  prior : List Datum
  own : String
  values : List Datum
  tail : String
  conditions_eq : conditions = before ++ cond :: after
  compiled_before : compiled? c before = some (lead, prior)
  clause_eq : cond.clauseText? c = some own
  values_eq : cond.bound? = some values
  text_eq : text = lead ++ Clause.joint before ++ (" " ++ own) ++ tail
  lexemes_eq : ofText text = ofText (lead ++ Clause.joint before) ++ ofText own ++ ofText tail
  placeholders_lead : placeholders (lead ++ Clause.joint before) = prior.length
  placeholders_own : placeholders own = values.length
  le_index : prior.length ≤ i
  index_lt : i < prior.length + values.length
  value_eq : bound[i]? = values[i - prior.length]?

/-- Every parameter has its place. -/
theorem compiled?_slot (hplain : ∀ name ∈ c.visibleFields, '"' ∉ name.toList) {text : String}
    {bound : List Datum} (h : compiled? c conditions = some (text, bound)) {i : Nat}
    (hi : i < bound.length) : Nonempty (Slot c conditions text bound i) := by
  obtain ⟨clauses, hclauses, heq⟩ := Option.map_eq_some_iff.1 h
  obtain ⟨rfl, rfl⟩ := Prod.mk.inj heq
  obtain ⟨before, cond, after, front, clause, rest, hconditions, rfl, hfront, hclause, hle, hlt, hvalue⟩ :=
    clauses?_split hclauses hi
  have hcolumn : ∀ other ∈ front ++ clause :: rest, ∀ name, Store.columnOf? other = some name →
      name ∈ c.visibleFields ∧ '"' ∉ name.toList := fun other hother name hname =>
    have hvisible := column_visible hclauses hother hname
    ⟨hvisible, hplain name hvisible⟩
  have hlead := Clause.binds_front fun other hother => hcolumn other (List.mem_append_left _ hother)
  have hown := Clause.binds_text (hcolumn clause (by simp))
  obtain ⟨htail, hapart⟩ := Clause.binds_furtherText fun other (hother : other ∈ rest) =>
    hcolumn other (by simp [hother])
  have hjoint : Clause.joint before = Clause.joint front := by
    rw [Clause.joint, Clause.joint, isEmpty_of_clauses? hfront]
  refine ⟨⟨before, cond, after, Clause.whereText front, front.flatMap Clause.parameters, clause.text,
    clause.parameters, Clause.furtherText rest, hconditions, ?_, ?_, bound?_of_clause? hclause, ?_, ?_, ?_,
    hown.placeholders_eq, hle, hlt, hvalue⟩⟩
  · rw [compiled?, hfront, Option.map_some]
  · rw [clauseText?, hclause, Option.map_some]
  · rw [hjoint]
    exact Clause.whereText_split front clause rest
  · rw [hjoint, Clause.whereText_split,
      ofText_append (hlead.append hown.spaced (.inr ⟨_, rfl⟩)).whole hapart,
      ofText_append hlead.whole (.inr ⟨_, rfl⟩), ofText_spaced]
  · rw [hjoint]
    exact hlead.placeholders_eq

/-- Conditions of the same shapes are compiled to the same text. -/
theorem compiled?_of_shape {others : List Condition} {text : String} {bound : List Datum}
    (hshape : others.map (shape c) = conditions.map (shape c))
    (h : compiled? c conditions = some (text, bound)) :
    ∃ bound', compiled? c others = some (text, bound') := by
  obtain ⟨clauses, hclauses, heq⟩ := Option.map_eq_some_iff.1 h
  obtain ⟨rfl, rfl⟩ := Prod.mk.inj heq
  obtain ⟨clauses', hclauses', htexts⟩ := clauses?_of_shape hshape hclauses
  have hempty : clauses'.isEmpty = clauses.isEmpty := by
    rw [← List.isEmpty_map (f := Clause.text), htexts, List.isEmpty_map]
  refine ⟨clauses'.flatMap Clause.parameters, ?_⟩
  rw [compiled?, hclauses', Option.map_some, Clause.whereText, Clause.whereText, htexts, hempty]

/-- The placeholders of a text are as many as its parameters, and its identifiers are visible fields. -/
theorem compiled?_binds (hplain : ∀ name ∈ c.visibleFields, '"' ∉ name.toList) {text : String}
    {bound : List Datum} (h : compiled? c conditions = some (text, bound)) :
    Binds c.visibleFields text bound.length := by
  obtain ⟨clauses, hclauses, heq⟩ := Option.map_eq_some_iff.1 h
  obtain ⟨rfl, rfl⟩ := Prod.mk.inj heq
  exact Clause.binds_whereText fun clause hclause name hname =>
    have hvisible := column_visible hclauses hclause hname
    ⟨hvisible, hplain name hvisible⟩

/-! ## The collections of the catalog -/

/-- No field that may be looked at has a quotation mark in its name. -/
theorem plain_names : ∀ c ∈ Collection.standard, ∀ name ∈ c.visibleFields, '"' ∉ name.toList := by
  decide

/-- A text of compiled conditions has a placeholder for each parameter, in the clause of the condition
that compares with it. It depends on the shapes of the conditions alone, and its identifiers are visible
fields. -/
theorem compiled_of_standard (hc : c ∈ Collection.standard) {text : String} {bound : List Datum}
    (h : compiled? c conditions = some (text, bound)) :
    placeholders text = bound.length ∧
    (∀ i < bound.length, Nonempty (Slot c conditions text bound i)) ∧
    (∀ others : List Condition, others.map (shape c) = conditions.map (shape c) →
      ∃ bound', compiled? c others = some (text, bound')) ∧
    ∀ name ∈ identifiers text, name ∈ c.visibleFields := by
  have hplain := plain_names c hc
  have hbinds := compiled?_binds hplain h
  exact ⟨hbinds.placeholders_eq, fun i hi => compiled?_slot hplain h hi,
    fun others hshape => compiled?_of_shape hshape h, hbinds.mem_names⟩

/-- Conditions that are written to be taken for a part of the statement: a hidden field, and marks of the
statement in a name and in the values. -/
def hostile : List Condition :=
  [⟨"name", .oneOf, .list [.text "?", .text "\") OR 1 --"]⟩, ⟨"password", .gt, .text "0"⟩,
    ⟨"role\" IS NULL OR \"role", .ne, .text "?"⟩]

theorem compiled_of_hostile :
    Collection.users ∈ Collection.standard ∧
    compiled? .users hostile =
      some (" WHERE \"name\" IN (?, ?) AND NULL > ? AND (NULL IS NULL OR NULL != ?)",
        [.text "?", .text "\") OR 1 --", .text "0", .text "?"]) ∧
    placeholders " WHERE \"name\" IN (?, ?) AND NULL > ? AND (NULL IS NULL OR NULL != ?)" = 4 ∧
    (∃ bound, compiled? .users [⟨"name", .oneOf, .list [.int 1, .int 2]⟩, ⟨"", .gt, .null⟩, ⟨"", .ne, .null⟩] =
      some (" WHERE \"name\" IN (?, ?) AND NULL > ? AND (NULL IS NULL OR NULL != ?)", bound)) ∧
    ∀ name ∈ identifiers " WHERE \"name\" IN (?, ?) AND NULL > ? AND (NULL IS NULL OR NULL != ?)",
      name ∈ Collection.users.visibleFields := by
  have hc : Collection.users ∈ Collection.standard := List.mem_cons_self ..
  have h : compiled? .users hostile =
      some (" WHERE \"name\" IN (?, ?) AND NULL > ? AND (NULL IS NULL OR NULL != ?)",
        [.text "?", .text "\") OR 1 --", .text "0", .text "?"]) := by rfl
  obtain ⟨hplaceholders, -, hshape, hnames⟩ := compiled_of_standard hc h
  exact ⟨hc, h, hplaceholders, hshape _ rfl, hnames⟩

end Condition
end SchoolCatalog
