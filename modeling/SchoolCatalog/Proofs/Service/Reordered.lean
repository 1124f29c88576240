import Mathlib.Data.List.Basic
import SchoolCatalog.Proofs.Query.Gathering
import SchoolCatalog.Proofs.Service.Listing
import SchoolCatalog.Proofs.Store.Filtering

/-!
# Parameters in another order

Whether the order matters in which a list request gives its pairs. Two lists of pairs that give every
key the same values in the same order ask for the same conditions in some order, and a statement holds for
the same rows whatever the order of its conditions. What it does depend on is the bound on how deeply
conditions are nested: `ne` is one deeper than the others, so it makes a difference whether it is joined
first or last. Apart from that, both requests have the same outcome, in every state and for every
collection.

Results:
1. `Rearranged.count_eq`, `Rearranged.select_eq`: statements with the same clauses in another order.
2. `answer_of_sameValues`: requests whose pairs give every key the same values.
3. `parted_by_depth`: a request that is refused in one order and answered in another.
-/

namespace SchoolCatalog

open Store Service

/-! ## Steps in another order -/

section Steps

variable {α β γ ε : Type} {fault : ε} {f : α → Except ε β} {P : α → Prop} {items others : List α}

theorem eq_filterMap_of_mapM {results : List β} (h : items.mapM f = .ok results) :
    results = items.filterMap fun a => (f a).toOption := by
  induction items generalizing results with
  | nil =>
    cases h
    rfl
  | cons a rest ih =>
    rw [List.mapM_cons] at h
    obtain ⟨b, hb, h⟩ := bind_eq_ok.1 h
    obtain ⟨bs, hbs, h⟩ := bind_eq_ok.1 h
    cases h
    rw [List.filterMap_cons_some (b := b) (by rw [hb]; rfl), ih hbs]

/-- Steps with one way to fail go on alike in any order, if what follows does not look at the order. -/
theorem SucceedsIf.mapM_bind_perm (h : ∀ a ∈ items, SucceedsIf (f a) fault (P a))
    (perm : items.Perm others) (next : List β → Except ε γ)
    (hnext : ∀ results results', results.Perm results' → next results = next results') :
    (items.mapM f >>= next) = (others.mapM f >>= next) := by
  have hitems := SucceedsIf.mapM h
  have hothers := SucceedsIf.mapM fun a ha => h a (perm.mem_iff.2 ha)
  by_cases hall : ∀ a ∈ items, P a
  · obtain ⟨results, hresults⟩ := hitems.1 hall
    obtain ⟨results', hresults'⟩ := hothers.1 fun a ha => hall a (perm.mem_iff.2 ha)
    have hperm : results.Perm results' := by
      rw [eq_filterMap_of_mapM hresults, eq_filterMap_of_mapM hresults']
      exact perm.filterMap _
    rw [hresults, hresults']
    exact hnext results results' hperm
  · rw [hitems.2 hall, hothers.2 fun hnone => hall fun a ha => hnone a (perm.mem_iff.1 ha)]

end Steps

/-! ## Statements -/

namespace Store

/-- The same clauses in another order, which can be joined in both orders or in neither. -/
structure Rearranged (first second : List Clause) : Prop where
  perm : first.Perm second
  joins : canJoin first = canJoin second

variable {first second : List Clause} {db : Database} {c : Collection} {l : Layout}

namespace Rearranged

/-- Whether a statement can be run does not depend on the order of its clauses otherwise. -/
theorem check_eq (h : Rearranged first second) (s : Statement) :
    ({ s with clauses := first } : Statement).check =
      ({ s with clauses := second } : Statement).check := by
  have hnames : ({ s with clauses := first } : Statement).names.Perm
      ({ s with clauses := second } : Statement).names :=
    ((h.perm.filterMap columnOf?).append_left _).append_right _
  have hparameters : (first.map fun clause => clause.parameters.length).foldl (· + ·) s.window =
      (second.map fun clause => clause.parameters.length).foldl (· + ·) s.window :=
    (h.perm.map _).foldl_eq s.window
  have hbounds : ({ s with clauses := first } : Statement).keepsBounds =
      ({ s with clauses := second } : Statement).keepsBounds := by
    unfold Statement.keepsBounds
    rw [h.joins, hparameters]
  unfold Statement.check
  rw [(hnames.cons s.table).all_eq, hnames.all_eq, hbounds]

theorem matching_eq {tests tests' : List Test} (h : tests.Perm tests') (t : Table) :
    t.matching tests = t.matching tests' := by
  unfold Table.matching
  simp only [h.all_eq]

variable (h : Rearranged first second)
  (hplain : ∀ clause ∈ first, ∀ d ∈ clause.parameters, d.IsPlain)

include h hplain

/-- Counting does not depend on the order of clauses. -/
theorem count_eq (db : Database) (c : Collection) : db.count c first = db.count c second := by
  have hnames : ({ table := c.name, clauses := first } : Statement).names.Perm
      ({ table := c.name, clauses := second } : Statement).names :=
    ((h.perm.filterMap columnOf?).append_left _).append_right _
  unfold Database.count
  dsimp only
  rw [h.check_eq { table := c.name }]
  refine bind_congr fun _ => bind_congr fun t => ?_
  rw [hnames.any_eq]
  have htests := SucceedsIf.mapM_bind_perm
    (fun clause hclause => Condition.ofClause_succeeds (l := t.layout) (hplain clause hclause)) h.perm
    (fun tests => pure (t.matching tests).length) fun tests tests' hperm => by rw [matching_eq hperm]
  exact ite_congr rfl (fun _ => rfl) fun _ => htests

/-- Finding does not depend on the order of clauses. -/
theorem select_eq (db : Database) (c : Collection) (s : Selection) :
    db.select c first s = db.select c second s := by
  unfold Database.select
  dsimp only
  rw [show (s.statement c first).check = (s.statement c second).check from
    h.check_eq (s.statement c [])]
  simp only [Selection.statement]
  refine bind_congr fun _ => ?_
  have htests (t : Table) := SucceedsIf.mapM_bind_perm
    (fun clause hclause => Condition.ofClause_succeeds (l := t.layout) (hplain clause hclause)) h.perm
    (fun tests => bindWindow s.skip s.limit >>= fun bounds => pure
      ((window bounds.1 bounds.2 (sortRows ((c.orderKeys s.sort).map (RowKey.ofSortKey t.layout))
        (t.matching tests))).map
          (recordOf c (t.layout.shown (columns c s.projection s.includeHidden)))))
    fun tests tests' hperm => by rw [matching_eq hperm]
  exact ite_congr rfl (fun _ => rfl) fun _ => bind_congr htests

end Rearranged
end Store

/-! ## Requests -/

namespace Condition

/-- Whether conditions can be joined in their order. -/
def joins (c : Collection) (conditions : List Condition) : Bool := (clauses? c conditions).all canJoin

variable {c : Collection} {first second : List Condition}

/-- Few conditions can be joined in any order. -/
theorem joins_of_few (h : first.length + 2 ≤ Nesting.greatestDepth)
    (hplain : ∀ cond ∈ first, cond.IsPlain) : joins c first = true := by
  obtain ⟨clauses, hclauses⟩ := clauses?_of_plain (c := c) hplain
  rw [joins, hclauses, Option.all_some]
  exact canJoin_of_few (by rwa [(parameters_clauses hplain hclauses).1])

/-- The conditions that a list of clauses is compiled from, one for each clause. -/
theorem clauses?_eq_filterMap {clauses : List Clause} (h : clauses? c first = some clauses) :
    clauses = first.filterMap (clause? c) := by
  induction first generalizing clauses with
  | nil =>
    cases h
    rfl
  | cons cond rest ih =>
    obtain ⟨clause, tail, hclause, htail, rfl⟩ := Store.clauses?_cons.1 h
    rw [List.filterMap_cons_some hclause, ih htail]

/-- Plain conditions in another order compile to plain clauses in another order. -/
theorem rearranged (perm : first.Perm second) (hplain : ∀ cond ∈ first, cond.IsPlain)
    (hjoins : joins c first = joins c second) :
    ∃ clauses clauses', clauses? c first = some clauses ∧ clauses? c second = some clauses' ∧
      Rearranged clauses clauses' ∧ ∀ clause ∈ clauses, ∀ d ∈ clause.parameters, d.IsPlain := by
  obtain ⟨clauses, hclauses⟩ := clauses?_of_plain (c := c) hplain
  obtain ⟨clauses', hclauses'⟩ := clauses?_of_plain (c := c) fun cond hcond =>
    hplain cond (perm.mem_iff.2 hcond)
  rw [joins, joins, hclauses, hclauses', Option.all_some, Option.all_some] at hjoins
  have hperm : clauses.Perm clauses' := by
    rw [clauses?_eq_filterMap hclauses, clauses?_eq_filterMap hclauses']
    exact perm.filterMap _
  refine ⟨clauses, clauses', hclauses, hclauses', ⟨hperm, hjoins⟩, fun clause hclause => ?_⟩
  rw [clauses?_eq_filterMap hclauses] at hclause
  obtain ⟨cond, hcond, hcompiled⟩ := List.mem_filterMap.1 hclause
  obtain ⟨_, hsame, hparameters, hoperands⟩ := clause?_of_plain (c := c) (hplain cond hcond)
  cases hcompiled.symm.trans hsame
  rwa [hparameters]

end Condition

namespace ListRequest

variable {c : Collection} {inc : Option Include} {store : Store} {around : Surroundings}
  {state : State} {r : ListRequest} {conditions : List Condition}

section Reordering

variable (perm : r.conditions.Perm conditions) (hplain : ∀ cond ∈ r.conditions, cond.IsPlain)
  (hjoins : Condition.joins c r.conditions = Condition.joins c conditions)

include perm hplain hjoins

theorem count_reordered (store : Store) : store.count c r.conditions = store.count c conditions := by
  obtain ⟨clauses, clauses', hclauses, hclauses', hrearranged, hvalues⟩ :=
    Condition.rearranged perm hplain hjoins
  unfold Store.count Store.compile
  rw [hclauses, hclauses']
  simp only [pure_bind]
  exact bind_congr fun db => congrArg ofExcept (hrearranged.count_eq hvalues db c)

theorem find_reordered (store : Store) (s : Selection) :
    store.find c { s with conditions := r.conditions } = store.find c { s with conditions } := by
  obtain ⟨clauses, clauses', hclauses, hclauses', hrearranged, hvalues⟩ :=
    Condition.rearranged perm hplain hjoins
  unfold Store.find Store.compile
  dsimp only
  rw [hclauses, hclauses']
  simp only [pure_bind]
  exact bind_congr fun db => congrArg ofExcept (hrearranged.select_eq hvalues db c _)

/-- A list request with plain conditions in another order is run alike. -/
theorem run_reordered (inc : Option Include) (store : Store) :
    r.run c inc store = { r with conditions }.run c inc store := by
  have hfind : store.find c (r.selection inc) = store.find c ({ r with conditions }.selection inc) :=
    find_reordered perm hplain hjoins store (r.selection inc)
  unfold ListRequest.run
  rw [count_reordered perm hplain hjoins store]
  exact bind_congr fun total => congrArg (· >>= _) hfind

end Reordering

theorem run_reach (store : Store) : Service.run store.connect around state =
    (if store.reachable then .ok state.database else .error .unavailable, state) := by
  unfold Store.connect
  cases store.reachable <;> rfl

/-- Conditions that cannot be joined are refused, whatever else is wrong with them. -/
theorem count_of_unjoined (hplain : ∀ cond ∈ conditions, cond.IsPlain)
    (h : Condition.joins c conditions = false) (store : Store) (around : Surroundings) (state : State) :
    ∃ failure, Service.run (store.count c conditions) around state = (.error failure, state) := by
  obtain ⟨clauses, hclauses⟩ := Condition.clauses?_of_plain (c := c) hplain
  rw [Condition.joins, hclauses, Option.all_some] at h
  have hcheck : ∃ failure, ({ table := c.name, clauses } : Statement).check = .error failure := by
    unfold Statement.check
    split
    · exact ⟨_, rfl⟩
    · rw [Statement.keepsBounds, h]
      simp
  obtain ⟨failure, hfailure⟩ := hcheck
  have hcount : state.database.count c clauses = .error failure := by
    unfold Database.count
    dsimp only
    rw [hfailure]
    rfl
  unfold Store.count
  rw [run_bind, run_compile, hclauses]
  dsimp only
  rw [run_bind, run_reach]
  cases store.reachable with
  | true =>
    refine ⟨failure, ?_⟩
    show Service.run (Service.ofExcept (state.database.count c clauses)) around state = _
    rw [run_ofExcept, hcount]
  | false => exact ⟨.unavailable, rfl⟩

theorem answer_of_unjoined {params : Parameters} (h : Condition.joins c
    (parse c params (defaultLimit around.settings none)).conditions = false) :
    ∃ failure, Service.run (answer c params inc store) around state = (.error failure, state) := by
  obtain ⟨failure, hcount⟩ := count_of_unjoined (parse_plain c params _) h store around state
  refine ⟨failure, ?_⟩
  unfold answer
  rw [run_bind, run_read]
  dsimp only
  unfold ListRequest.run
  rw [run_bind, run_bind, hcount]

end ListRequest

/-! ## Results -/

namespace ListRequest

open Parameters

/-- Two lists of pairs that give every key the same values in the same order. If their conditions can be
joined in both orders or in neither, the requests have the same outcome, and that is so for up to 998
conditions; conditions that cannot be joined in their order are refused. -/
theorem answer_of_sameValues {first second : List (String × String)} (same : SameValues first second)
    (c : Collection) (inc : Option Include) (store : Store) (around : Surroundings) (state : State) :
    let conditions (pairs : List (String × String)) :=
      (parse c (ofPairs pairs) (defaultLimit around.settings none)).conditions
    let outcome (pairs : List (String × String)) :=
      Service.run (answer c (ofPairs pairs) inc store) around state
    (Condition.joins c (conditions first) = Condition.joins c (conditions second) →
      outcome first = outcome second) ∧
    ((conditions first).length + 2 ≤ Nesting.greatestDepth → outcome first = outcome second) ∧
    (Condition.joins c (conditions first) = false →
      ∃ failure, outcome first = (.error failure, state)) := by
  intro conditions outcome
  obtain ⟨turned, hperm, hsecond⟩ := parse_of_sameValues same c (defaultLimit around.settings none)
  have hplain : ∀ cond ∈ conditions first, cond.IsPlain := parse_plain c (ofPairs first) _
  have hturned : conditions second = turned := congrArg ListRequest.conditions hsecond
  have hsame (hjoins : Condition.joins c (conditions first) = Condition.joins c (conditions second)) :
      outcome first = outcome second := by
    rw [hturned] at hjoins
    show Service.run (answer c (ofPairs first) inc store) around state =
      Service.run (answer c (ofPairs second) inc store) around state
    unfold answer
    rw [run_bind, run_bind, run_read]
    dsimp only
    rw [hsecond, run_reordered hperm hplain hjoins inc store]
  refine ⟨hsame, fun hfew => hsame ?_, answer_of_unjoined⟩
  have hfewTurned : (conditions second).length + 2 ≤ Nesting.greatestDepth := by
    rwa [hturned, ← hperm.length_eq]
  rw [Condition.joins_of_few hfew hplain,
    Condition.joins_of_few hfewTurned (parse_plain c (ofPairs second) _)]

/-- Courses of a price between two others, by their titles. -/
def betweenPrices : List (String × String) := [("tuition[gt]", "5"), ("tuition[lt]", "9")]

def byTitle : List (String × String) := [("select", "title"), ("sort", "title")]

theorem answer_of_titles : SameValues (betweenPrices ++ byTitle) (byTitle ++ betweenPrices) ∧
    Service.run (answer .courses (ofPairs (betweenPrices ++ byTitle)) (some .schoolSummary) {})
      Operation.calm .fresh =
    Service.run (answer .courses (ofPairs (byTitle ++ betweenPrices)) (some .schoolSummary) {})
      Operation.calm .fresh := by
  have same : SameValues (betweenPrices ++ byTitle) (byTitle ++ betweenPrices) :=
    sameValues_append_comm (by decide)
  exact ⟨same, (answer_of_sameValues same .courses (some .schoolSummary) {} Operation.calm
    .fresh).2.1 (by decide)⟩

/-! ## The order in which conditions are joined -/

/-- A pair that asks for all accounts but the second. -/
def sparing : List (String × String) := [("id[ne]", "2")]

/-- Pairs that ask for the first account, a number of times. -/
def insisting (n : Nat) : List (String × String) := List.replicate n ("id[eq]", "1")

/-- What such requests look like, whichever conditions come first. -/
def asking (conditions : List Condition) : ListRequest where
  conditions
  sort := [⟨"created_at", true⟩]

def isNotSecond : Condition := ⟨"id", .ne, .int 2⟩

def isFirst : Condition := ⟨"id", .eq, .int 1⟩

theorem filter_sparing : filter .users "id[ne]" (.one "2") = [isNotSecond] := by rfl

theorem filter_insisting (n : Nat) :
    filter .users "id[eq]" (.many (List.replicate n "1")) = List.replicate n isFirst := by
  have hread := filter_pair .users (f := ⟨"id", .eq, "1"⟩) (Kept.users.opening (by decide))
    (.many (List.replicate n "1"))
  exact hread.trans List.map_replicate

theorem parse_sparing_first (n : Nat) : parse .users (ofPairs (sparing ++ insisting (n + 2))) 25 =
    asking (isNotSecond :: List.replicate (n + 2) isFirst) := by
  have hgathered : ofPairs (sparing ++ insisting (n + 2)) =
      [("id[ne]", .one "2"), ("id[eq]", .many (List.replicate (n + 2) "1"))] :=
    ofPairs_replicate (show "id[eq]" ∉ (ofPairs sparing).map (·.1) by decide) "1" n
  have hconditions : (parse .users (ofPairs (sparing ++ insisting (n + 2))) 25).conditions =
      isNotSecond :: List.replicate (n + 2) isFirst := by
    rw [hgathered]
    show filter .users "id[ne]" (.one "2") ++ (filter .users "id[eq]" _ ++ []) = _
    rw [filter_sparing, filter_insisting, List.append_nil, List.singleton_append]
  rw [asking, ← hconditions, hgathered]
  rfl

theorem parse_sparing_last (n : Nat) : parse .users (ofPairs (insisting (n + 2) ++ sparing)) 25 =
    asking (List.replicate (n + 2) isFirst ++ [isNotSecond]) := by
  have hgathered : ofPairs (insisting (n + 2) ++ sparing) =
      [("id[eq]", .many (List.replicate (n + 2) "1")), ("id[ne]", .one "2")] := by
    have hinsisting := ofPairs_replicate (show "id[eq]" ∉ (ofPairs []).map (·.1) by decide) "1" n
    rw [List.nil_append] at hinsisting
    rw [sparing, ofPairs_concat, insisting, hinsisting]
    rfl
  have hconditions : (parse .users (ofPairs (insisting (n + 2) ++ sparing)) 25).conditions =
      List.replicate (n + 2) isFirst ++ [isNotSecond] := by
    rw [hgathered]
    show filter .users "id[eq]" _ ++ (filter .users "id[ne]" (.one "2") ++ []) = _
    rw [filter_sparing, filter_insisting, List.append_nil]
  rw [asking, ← hconditions, hgathered]
  rfl

theorem sameValues_insisting (n : Nat) :
    SameValues (sparing ++ insisting n) (insisting n ++ sparing) := by
  refine sameValues_append_comm fun p hp q hq => ?_
  rw [List.mem_singleton.1 hp, List.eq_of_mem_replicate hq]
  decide

theorem joins_sparing_first :
    Condition.joins .users (isNotSecond :: List.replicate 998 isFirst) = false := by
  decide +kernel

theorem keepsBounds_sparing_last : ((asking (List.replicate 998 isFirst ++ [isNotSecond])).selection
    none).keepsBounds .users = true := by
  decide +kernel

theorem fitsWord_sparing_last : (asking (List.replicate 998 isFirst ++ [isNotSecond])).FitsWord := by
  decide +kernel

/-- The same pairs are refused in one order and answered in another, although no value is out of range:
with `ne` joined first the conditions are nested a thousand and one deep, with `ne` joined last a
thousand. -/
theorem parted_by_depth :
    SameValues (sparing ++ insisting 998) (insisting 998 ++ sparing) ∧
    (∃ failure, Service.run (answer .users (ofPairs (sparing ++ insisting 998)) none {})
      Operation.calm .fresh = (.error failure, .fresh)) ∧
    ∃ envelope, Service.run (answer .users (ofPairs (insisting 998 ++ sparing)) none {})
      Operation.calm .fresh = (.ok envelope, .fresh) := by
  refine ⟨sameValues_insisting 998, answer_of_unjoined ?_, ?_⟩
  · have hparse : parse .users (ofPairs (sparing ++ insisting 998)) (defaultLimit
        Operation.calm.settings none) = asking (isNotSecond :: List.replicate 998 isFirst) :=
      parse_sparing_first 996
    rw [hparse]
    exact joins_sparing_first
  · have hsound : State.fresh.database.Sound := sound_fresh
    have hanswer := run_answer hsound (.plain .users) (show Operation.calm.Batched by decide)
      (parse_sparing_last 996) keepsBounds_sparing_last
    rw [if_pos fitsWord_sparing_last] at hanswer
    exact ⟨_, hanswer⟩

end ListRequest
end SchoolCatalog
