import Mathlib.Data.List.Basic
import SchoolCatalog.Proofs.Query.Filters
import SchoolCatalog.Proofs.Query.Gathering
import SchoolCatalog.Proofs.Service.Runs
import SchoolCatalog.Proofs.Store.Filtering

/-!
# Equal and different

Which records the filters `field[eq]=text` and `field[ne]=text` find. One value is compared with what
each row holds, and where that is null `ne` accepts it and `eq` does not; so is a field that is hidden or
not declared, which no row has. Hence each row is found by exactly one of the two, but for one operand: a
text that reads as NaN is bound as null, so that the comparison is undecided whatever the row holds. The
guard for rows that hold null does not help there, and rows that hold something are found by neither.

Results:
1. `holds_different`: `ne` is the negation of `eq` for every operand but null.
2. `complement_of_run`: what the two filters find after every run.
3. `missed_by_both`: a course that neither of them finds.
-/

namespace SchoolCatalog

open Store Service ListRequest

/-! ## Requests with one filter -/

namespace Filter

/-- A key with brackets is not reserved. -/
theorem not_reserved (f : Filter) : reserved.contains f.pair.1 = false := by
  have hlast : f.pair.1.toList.getLast? = some ']' := by
    rw [pair, String.toList_append]
    exact List.getLast?_concat
  rw [Bool.eq_false_iff]
  intro hreserved
  have hmem : f.pair.1 ∈ reserved := List.contains_iff_mem.1 hreserved
  have hother : ∀ key ∈ reserved, key.toList.getLast? ≠ some ']' := by decide
  exact hother _ hmem hlast

/-- A request with one filter has the condition of this filter. -/
theorem conditions_pair {f : Filter} (hopening : IsOpening f.field) (c : Collection) (n : Int) :
    (parse c (Parameters.ofPairs [f.pair]) n).conditions = [f.condition c] := by
  have hgathered : Parameters.ofPairs [f.pair] = [(f.pair.1, .one f.pair.2)] := rfl
  unfold parse
  dsimp only
  rw [hgathered, List.flatMap_singleton]
  dsimp only
  rw [f.not_reserved, if_neg Bool.false_ne_true]
  exact filter_pair c hopening _

end Filter

/-! ## Rows -/

namespace Condition

variable {c : Collection} {l : Layout} {row : Row} {field : String} {d : Datum} {v : Cell}

/-- The column that a condition looks at, if any. -/
def column? (c : Collection) (l : Layout) (field : String) : Option Reference :=
  (if c.isQueryable field then some field else none).map l.resolve

theorem holds_eq (hv : Cell.bind d = .ok v) : holds c l row ⟨field, .eq, d⟩ =
    Test.holds l row (.compares (column? c l field) .equal v) := by
  rw [holds, test, clause?]
  dsimp only
  rw [Test.ofClause, hv]
  rfl

theorem holds_ne (hv : Cell.bind d = .ok v) : holds c l row ⟨field, .ne, d⟩ =
    Test.holds l row (.differs (column? c l field) v) := by
  rw [holds, test, clause?]
  dsimp only
  rw [Test.ofClause, hv]
  rfl

/-- For every operand but null, a row is different if and only if it is not equal. -/
theorem holds_different (hv : Cell.bind d = .ok v) (hnull : v.isNull = false) :
    holds c l row ⟨field, .ne, d⟩ = !holds c l row ⟨field, .eq, d⟩ := by
  rw [holds_eq hv, holds_ne hv]
  unfold Test.holds
  cases column? c l field with
  | none => rfl
  | some column =>
    dsimp only [order?]
    rw [hnull, Bool.or_false]
    cases (row.read column).isNull with
    | true => rfl
    | false =>
      rw [if_neg Bool.false_ne_true]
      dsimp only
      cases (row.read column).compare ((l.affinity column).adapt v) <;> rfl

/-- Nothing is equal to null, and nothing but null is different from it. -/
theorem holds_null (hv : Cell.bind d = .ok v) (hnull : v.isNull = true) :
    holds c l row ⟨field, .eq, d⟩ = false ∧
      holds c l row ⟨field, .ne, d⟩ = (column? c l field).all fun column => (row.read column).isNull := by
  rw [holds_eq hv, holds_ne hv]
  unfold Test.holds
  cases column? c l field with
  | none => exact ⟨rfl, rfl⟩
  | some column =>
    dsimp only [order?]
    rw [hnull, Bool.or_true]
    exact ⟨rfl, Bool.or_false _⟩

end Condition

/-! ## Operands -/

/-- The one operand of a filter that is bound as null is a NaN. -/
theorem isNull_of_bind {d : Datum} (h : d.IsPlain) {v : Cell} (hv : Cell.bind d = .ok v) :
    v.isNull = true ↔ d = .real .nan := by
  cases h with
  | text s =>
    cases hv
    simp [Cell.isNull]
  | bool b =>
    cases hv
    simp [Cell.isNull]
  | int i =>
    rw [Cell.bind] at hv
    split at hv
    · cases hv
      simp [Cell.isNull]
    · cases hv
  | real x =>
    cases hv
    cases x with
    | nan => simp [Cell.isNull, Binary64.isNaN]
    | infinite negative => simp [Cell.isNull, Binary64.isNaN]
    | finite negative units => simp [Cell.isNull, Binary64.isNaN]

namespace Store

variable {db : Database} {c : Collection} {l : Layout} {field : String}

/-- A field whose texts read as fractions is visible. -/
theorem Kept.visible_of_real (k : Kept c l) {s : String} {x : Binary64}
    (h : c.coerce field (.text s) = .real x) : field ∈ c.visibleFields := by
  have hall : ∀ entry ∈ c.fields, entry.2 = .integer ∨ entry.2 = .number →
      entry.1 ∈ c.visibleFields := by
    cases k <;> decide
  unfold Collection.coerce at h
  cases hkind : c.kind? field with
  | none =>
    rw [hkind] at h
    cases h
  | some kind =>
    rw [hkind] at h
    refine hall _ (mem_of_lookup hkind) ?_
    cases kind with
    | integer => exact .inl rfl
    | number => exact .inr rfl
    | text => cases h
    | flag =>
      simp only [Kind.coerceText] at h
      split at h
      · cases h
      · split at h <;> cases h

theorem matching_single (db : Database) (c : Collection) (l : Layout) (cond : Condition) :
    db.matching c l [cond] = (db.rows l.name).filter fun row => Condition.holds c l row cond := by
  unfold Database.matching
  simp only [List.all_cons, List.all_nil, Bool.and_true]

/-- What is found by one value: the rows that match, or nothing if it is an integer of more than 64
bits. -/
theorem found_single (h : db.Sound) (k : Kept c l) {operator : Operator} (hone : operator ≠ .oneOf)
    {d : Datum} (hplain : d.IsPlain) :
    db.found c { conditions := [⟨field, operator, d⟩] } =
      if d.FitsWord then .ok ((db.matching c l [⟨field, operator, d⟩]).map
        (recordOf c (l.shown (columns c none false))))
      else .error .outOfRange := by
  have hoperands : Condition.operands ⟨field, operator, d⟩ = [d] := by cases hplain <;> rfl
  have hconditions : ∀ cond ∈ [Condition.mk field operator d], cond.IsPlain :=
    List.forall_mem_singleton.2 (.single hone hplain)
  obtain ⟨clauses, hclauses⟩ := Condition.clauses?_of_plain (c := c) hconditions
  have hbounds : (({ conditions := [⟨field, operator, d⟩] } : Selection).statement c
      clauses).keepsBounds = true := by
    have hfew := keepsBounds_of_few k (s := { conditions := [⟨field, operator, d⟩] }) hconditions
      (by simp only [List.length_singleton]; decide)
      (by rw [List.map_singleton, hoperands]; exact (by decide : 1 + 2 ≤ 250000))
      (by simp only [List.length_nil]; decide)
    rwa [Selection.keepsBounds, hclauses, Option.all_some] at hfew
  have htest := Condition.test_succeeds c l (hconditions _ (List.mem_singleton_self _))
  have hfits : Condition.FitsWord ⟨field, operator, d⟩ ↔ d.FitsWord := by
    rw [Condition.FitsWord, hoperands, List.forall_mem_singleton]
  rw [hfits] at htest
  rw [found_eq h.standing k hclauses hbounds]
  by_cases hd : d.FitsWord
  · obtain ⟨test, htest⟩ := htest.1 hd
    have hsorted : sortRows (rowKeys c []) (db.matching c l [⟨field, operator, d⟩]) =
        db.matching c l [⟨field, operator, d⟩] :=
      sortRows_ordered ((h.ordered l k.mem_standard).filter _)
    rw [if_pos hd]
    dsimp only
    rw [mapM_cons_ok htest rfl, hsorted]
    rfl
  · rw [if_neg hd]
    dsimp only
    rw [List.mapM_cons, htest.2 hd]
    rfl

end Store

/-! ## Results -/

namespace Operation

variable {c : Collection} {l : Layout}

/-- After every run, the filters `field[eq]=text` and `field[ne]=text` for a field of any name. Such a
request has just this condition. Both are refused if the text reads as an integer of more than 64 bits.
Else both are answered, and each row is found by exactly one of them, unless the text reads as NaN: then
nothing is equal to it, and only rows that hold null are different from it. -/
theorem complement_of_run (requests : List (Surroundings × Operation)) (around : Surroundings)
    (k : Kept c l) (field s : String) :
    let state := runAll .fresh requests
    let asked (operator : Operator) : Filter := ⟨field, operator, s⟩
    let outcome (operator : Operator) := Service.run (({} : Store).find c
      { conditions := [(asked operator).condition c] }) around state
    let shown := recordOf c (l.shown (columns c none false))
    let operand := c.coerce field (.text s)
    ((state.database.rows l.name).map (·.id)).Nodup ∧
    (IsOpening field → ∀ operator n,
      (parse c (Parameters.ofPairs [(asked operator).pair]) n).conditions =
        [(asked operator).condition c]) ∧
    (¬ operand.FitsWord → outcome .eq = (.error .outOfRange, state) ∧
      outcome .ne = (.error .outOfRange, state)) ∧
    (operand.FitsWord → ∃ equal different : List Row,
      outcome .eq = (.ok (equal.map shown), state) ∧
      outcome .ne = (.ok (different.map shown), state) ∧
      (operand ≠ .real .nan → (equal ++ different).Perm (state.database.rows l.name)) ∧
      (operand = .real .nan → equal = [] ∧
        different = (state.database.rows l.name).filter fun row =>
          (row.read (fieldReference field)).isNull)) := by
  intro state asked outcome shown operand
  have sound : state.database.Sound := sound_run sound_fresh requests
  have hplain : operand.IsPlain := coerce_plain c field s
  have hfound {operator : Operator} (hone : operator ≠ .oneOf)
      (hcondition : (asked operator).condition c = ⟨field, operator, operand⟩) :
      outcome operator = (if operand.FitsWord then
        .ok ((state.database.matching c l [⟨field, operator, operand⟩]).map shown)
        else .error .outOfRange, state) := by
    show Service.run (({} : Store).find c { conditions := [(asked operator).condition c] }) around
      state = _
    rw [hcondition, run_find, found_single sound k hone hplain]
  have hequal := hfound (show Operator.eq ≠ .oneOf by decide) rfl
  have hdifferent := hfound (show Operator.ne ≠ .oneOf by decide) rfl
  refine ⟨sound.ids_nodup k.mem_standard, fun hopening operator n => ?_, fun hfits => ?_,
    fun hfits => ?_⟩
  · exact Filter.conditions_pair hopening c n
  · rw [if_neg hfits] at hequal hdifferent
    exact ⟨hequal, hdifferent⟩
  · obtain ⟨v, hv⟩ := (bind_succeeds hplain).1 hfits
    rw [if_pos hfits] at hequal hdifferent
    refine ⟨_, _, hequal, hdifferent, fun hnumber => ?_, fun hnan => ?_⟩
    · have hnull : v.isNull = false := by
        rw [Bool.eq_false_iff]
        exact mt (isNull_of_bind hplain hv).1 hnumber
      rw [matching_single, matching_single]
      simp only [Condition.holds_different hv hnull]
      exact List.filter_append_perm _ _
    · have hnull : v.isNull = true := (isNull_of_bind hplain hv).2 hnan
      have hcolumn : Condition.column? c l field = some (fieldReference field) :=
        k.resolve_visible (k.visible_of_real hnan)
      rw [matching_single, matching_single]
      simp only [Condition.holds_null hv hnull, hcolumn, Option.all_some]
      exact ⟨List.filter_false _, trivial⟩

theorem complement_of_priced : ∃ equal different : List Row,
    Service.run (({} : Store).find .courses
      { conditions := [(⟨"title", .ne, "Web"⟩ : Filter).condition .courses] }) calm
      (runAll .fresh priced) = (.ok (different.map (recordOf .courses
        (Layout.courses.shown (columns .courses none false)))), runAll .fresh priced) ∧
    (equal ++ different).Perm ((runAll .fresh priced).database.rows "courses") := by
  have hoperand : Collection.courses.coerce "title" (.text "Web") = .text "Web" := rfl
  obtain ⟨_, _, _, hanswered⟩ := complement_of_run priced calm .courses "title" "Web"
  obtain ⟨equal, different, _, hdifferent, hcomplement, _⟩ := hanswered (by decide)
  refine ⟨equal, different, hdifferent, hcomplement fun hnan => ?_⟩
  exact nomatch hoperand.symm.trans hnan

/-- A course that is found neither by the tuition that is equal to a text nor by the one that is different
from it, although both requests are answered. -/
theorem missed_by_both :
    let state := runAll .fresh priced
    let outcome (operator : Operator) := Service.run (({} : Store).find .courses
      { conditions := [(⟨"tuition", operator, "nan"⟩ : Filter).condition .courses] }) calm state
    (∃ row, row ∈ state.database.rows "courses") ∧
      outcome .eq = (.ok [], state) ∧ outcome .ne = (.ok [], state) := by
  intro state outcome
  have sound : state.database.Sound := sound_run sound_fresh priced
  have hoperand : Collection.courses.coerce "tuition" (.text "nan") = .real .nan := by rfl
  have hfound {operator : Operator} (hone : operator ≠ .oneOf)
      (hcondition : (⟨"tuition", operator, "nan"⟩ : Filter).condition .courses =
        ⟨"tuition", operator, .real .nan⟩)
      (hnone : state.database.matching .courses .courses [⟨"tuition", operator, .real .nan⟩] = []) :
      outcome operator = (.ok [], state) := by
    show Service.run (({} : Store).find .courses
      { conditions := [(⟨"tuition", operator, "nan"⟩ : Filter).condition .courses] }) calm state = _
    rw [hcondition, run_find, found_single sound .courses hone (.real _), if_pos (by decide), hnone]
    rfl
  have hcells : (state.database.rows "courses").map (fun row => (row.cell "tuition").isNull) =
      [false] := by
    decide +kernel
  have hpriced : ∀ row ∈ state.database.rows "courses", (row.cell "tuition").isNull = false := by
    intro row hrow
    have hcell := List.mem_map_of_mem (f := fun row : Row => (row.cell "tuition").isNull) hrow
    rwa [hcells, List.mem_singleton] at hcell
  have hnull (row : Row) : Condition.holds .courses .courses row ⟨"tuition", .eq, .real .nan⟩ = false ∧
      Condition.holds .courses .courses row ⟨"tuition", .ne, .real .nan⟩ = _ :=
    Condition.holds_null (v := .null) rfl rfl
  obtain ⟨row, hrow⟩ : ∃ row, row ∈ state.database.rows "courses" := by
    refine List.exists_mem_of_ne_nil _ fun hnone => ?_
    rw [hnone] at hcells
    exact nomatch hcells
  refine ⟨⟨row, hrow⟩, hfound (by decide) ?_ ?_, hfound (by decide) ?_ ?_⟩
  · exact congrArg (Condition.mk "tuition" .eq) hoperand
  · rw [matching_single]
    exact List.filter_eq_nil_iff.2 fun row _ => by rw [(hnull row).1]; exact Bool.false_ne_true
  · exact congrArg (Condition.mk "tuition" .ne) hoperand
  · rw [matching_single]
    refine List.filter_eq_nil_iff.2 fun row hrow => ?_
    rw [(hnull row).2]
    show ¬ (row.cell "tuition").isNull = true
    rw [hpriced row hrow]
    exact Bool.false_ne_true

end Operation
end SchoolCatalog
