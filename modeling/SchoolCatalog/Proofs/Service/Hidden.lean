import SchoolCatalog.Proofs.Service.Listing
import SchoolCatalog.Proofs.Store.Hiding

/-!
# Hidden values and lists of accounts

What a list of accounts tells about their passwords. Whether a request is answered, how many accounts
there are and which pages lie around does not depend on them, and neither does the page unless the
request sorts by the password, which nothing refuses: then the same accounts are put in an order that
tells which of two kept passwords is the lesser.

Results:
1. `run_plain`: a list request without related records as one count and one selection.
2. `answers_alike`: lists of accounts in databases that differ in passwords alone.
3. `order_of_passwords`: sorted by the password, such lists differ.
-/

namespace SchoolCatalog

open Store Service

namespace ListRequest

variable {r : ListRequest} {c : Collection} {l : Layout} {around : Surroundings}

/-- A list request without related records counts the records and selects those of the page. -/
theorem run_plain (state : State) {params : Parameters}
    (hr : parse c params (defaultLimit around.settings none) = r) :
    (Service.run (answer c params none {}) around state).1 = (do
      let total ← state.database.counted c r.conditions
      let records ← state.database.found c (r.selection none)
      .ok (ResultPage.mk records total r.page r.limit).envelope) := by
  have hfind : Service.run (({} : Store).find c
      { conditions := r.conditions, projection := r.fetched none, sort := r.sort, skip := r.skip,
        limit := some r.limit }) around state = (state.database.found c (r.selection none), state) :=
    run_find c (r.selection none)
  unfold answer ListRequest.run
  rw [run_bind, run_read]
  dsimp only
  rw [hr, run_bind, run_bind, run_count]
  cases state.database.counted c r.conditions with
  | error failure => rfl
  | ok total =>
    dsimp only
    rw [run_bind, hfind]
    cases state.database.found c (r.selection none) with
    | error failure => rfl
    | ok records => rfl

/-! ## Two accounts -/

theorem sortRows_pair (keys : List RowKey) (x y : Row) :
    sortRows keys [x, y] = if compareByAll keys x y = .gt then [y, x] else [x, y] := by
  unfold sortRows
  by_cases h : compareByAll keys x y = .gt <;>
    simp [List.mergeSort, List.MergeSort.Internal.splitInTwo, h]

/-- A row of the table of accounts. -/
def account (id : Int) (name password : String) : Row :=
  ⟨id, [("name", .text name), ("email", .text (name ++ "@example.com")), ("role", .text "user"),
    ("password", .text password), ("created_at", .text "2024-01-01T00:00:00.000000+00:00")]⟩

/-- Two accounts with the given kept passwords. -/
def accounts (ada bob : String) : State :=
  { database := Database.fresh.setTable ⟨.users, [account 1 "Ada" ada, account 2 "Bob" bob]⟩ }

/-- The list of accounts by their passwords. -/
def byPassword (state : State) : Except Failure Record :=
  (Service.run (answer .users [("sort", .one "password")] none {}) Operation.calm state).1

/-- The identity of the first record of an answered list. -/
def firstListed : Except Failure Record → Option Int
  | .ok answer => match Record.field answer "data" with
    | .list (.dict record :: _) => (Record.field record "id").wholeValue?
    | _ => none
  | .error _ => none

theorem standing_accounts (ada bob : String) : (accounts ada bob).database.Standing :=
  standing_fresh.setTable Kept.users.mem_standard _

theorem rows_accounts (ada bob : String) : (accounts ada bob).database.rows "users" =
    [account 1 "Ada" ada, account 2 "Bob" bob] :=
  (standing_fresh.rows_setTable Kept.users.mem_standard _ Kept.users.mem_standard).trans (if_pos rfl)

theorem alike_accounts (ada bob ada' bob' : String) : (accounts ada bob).database.hiding .users =
    (accounts ada' bob').database.hiding .users := rfl

theorem firstListed_accounts (ada bob : String) :
    firstListed (byPassword (accounts ada bob)) = if compare ada bob = .gt then some 2 else some 1 := by
  have hparse : parse .users [("sort", .one "password")] (defaultLimit Operation.calm.settings none) =
      { sort := [⟨"password", false⟩] } := rfl
  have hmatching : (accounts ada bob).database.matching .users .users [] =
      [account 1 "Ada" ada, account 2 "Bob" bob] := by
    rw [Database.matching]
    exact (List.filter_eq_self.2 fun _ _ => rfl).trans (rows_accounts ada bob)
  have hcompare : compareByAll (rowKeys .users [⟨"password", false⟩]) (account 1 "Ada" ada)
      (account 2 "Bob" bob) = .gt ↔ compare ada bob = .gt := by
    show (compare ada bob).then .lt = .gt ↔ _
    cases compare ada bob <;> decide
  rw [byPassword, run_plain _ hparse, counted_eq (standing_accounts ada bob) .users rfl (by decide),
    found_eq (standing_accounts ada bob) .users rfl (by decide)]
  dsimp only [selection]
  rw [hmatching, sortRows_pair]
  simp only [hcompare]
  split
  next => rfl
  next => rfl

/-! ## Results -/

/-- Lists of accounts in two states whose databases differ in passwords alone. They are the same unless
the request sorts by the password. In any case they have the same outcome, or both are answered with the
same count and the same links, and with the same window of two orders of the same accounts. -/
theorem answers_alike (params : Parameters) (around : Surroundings) {first second : State}
    (catalogued : first.database.Catalogued)
    (alike : first.database.hiding .users = second.database.hiding .users) :
    let r := parse .users params (defaultLimit around.settings none)
    let outcome (state : State) := (Service.run (answer .users params none {}) around state).1
    ((∀ key ∈ r.sort, key.field ≠ "password") → outcome first = outcome second) ∧
    (outcome first = outcome second ∨
      ∃ p q : ResultPage, outcome first = .ok p.envelope ∧ outcome second = .ok q.envelope ∧
        p.records.length = q.records.length ∧ p.pagination = q.pagination ∧
        ∃ (skip : Int) (limit : Option Int) (rows rows' : List Row), rows.Perm rows' ∧
          p.records = (window skip limit rows).map
            (recordOf .users (Layout.users.shown (columns .users r.projection false))) ∧
          q.records = (window skip limit rows').map
            (recordOf .users (Layout.users.shown (columns .users r.projection false)))) := by
  intro r outcome
  have hcounted := counted_alike catalogued .users alike r.conditions
  have houtcome (state : State) : outcome state = _ := run_plain state rfl
  have hprojection : (r.selection none).projection = r.projection := fetched_none r
  rcases found_alike catalogued .users alike (r.selection none) rfl with
    hfound | ⟨skip, limit, rows, rows', hperm, hsorted, hfirst, hsecond⟩
  · have hsame : outcome first = outcome second := by
      rw [houtcome first, houtcome second, hcounted, hfound]
    exact ⟨fun _ => hsame, .inl hsame⟩
  · rw [hprojection] at hfirst hsecond
    rw [houtcome first, houtcome second, hcounted, hfirst, hsecond]
    cases second.database.counted .users r.conditions with
    | error failure => exact ⟨fun _ => rfl, .inl rfl⟩
    | ok total =>
      constructor
      · intro hsort
        rw [hsorted fun key hkey hhidden => hsort key hkey (List.mem_singleton.1 hhidden)]
      · refine .inr ⟨⟨_, total, r.page, r.limit⟩, ⟨_, total, r.page, r.limit⟩, rfl, rfl, ?_, rfl,
          skip, limit, rows, rows', hperm, rfl, rfl⟩
        show ((window skip limit rows).map _).length = ((window skip limit rows').map _).length
        rw [List.length_map, List.length_map, length_window_congr hperm.length_eq]

theorem answers_by_name :
    (accounts "a" "b").database.Catalogued ∧
    (accounts "a" "b").database.hiding .users = (accounts "b" "a").database.hiding .users ∧
    (Service.run (answer .users [("sort", .one "name")] none {}) Operation.calm
      (accounts "a" "b")).1 =
    (Service.run (answer .users [("sort", .one "name")] none {}) Operation.calm
      (accounts "b" "a")).1 := by
  have catalogued := (standing_accounts "a" "b").catalogued
  have alike := alike_accounts "a" "b" "b" "a"
  refine ⟨catalogued, alike, ?_⟩
  refine (answers_alike [("sort", .one "name")] Operation.calm catalogued alike).1 fun key hkey => ?_
  rw [List.mem_singleton.1 (show key ∈ [⟨"name", false⟩] from hkey)]
  decide

/-- Sorted by the password, lists of accounts that differ in passwords alone differ. -/
theorem order_of_passwords :
    (accounts "b" "a").database.hiding .users = (accounts "a" "b").database.hiding .users ∧
      byPassword (accounts "b" "a") ≠ byPassword (accounts "a" "b") := by
  refine ⟨alike_accounts .., fun hsame => ?_⟩
  have hfirst := congrArg firstListed hsame
  rw [firstListed_accounts, firstListed_accounts] at hfirst
  exact absurd hfirst (by decide)

end ListRequest

end SchoolCatalog
