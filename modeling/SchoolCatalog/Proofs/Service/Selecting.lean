import Mathlib.Data.List.Induction
import SchoolCatalog.Proofs.Service.Listing
import SchoolCatalog.Proofs.Store.Hiding

/-!
# Selected fields

What `select` does to the answer of a list request. The rows of a page and what is looked up for them do
not depend on the fields that are wanted: the field that related records are found by is fetched in any
case, and taken out again if it was not wanted. So the answer is the one without `select`, with each record
cut down to its identity, the fields that are named and what is attached. That holds in every database of
the catalog, whatever its tables hold.

Results:
1. `columns_fetched`: what is fetched beside the fields that are wanted.
2. `run_of_rows`: a request as the rows that it finds, each shown on its own.
3. `answer_selected`: the answer with `select` as that without, cut down.
-/

namespace SchoolCatalog

open Store Service

namespace Store

variable {db : Database} {c : Collection} {l : Layout}

/-! ## Columns -/

/-- One more wanted field is shown at the end if it may be shown and is not there already. -/
theorem columns_concat (c : Collection) (fields : List String) (f : String) :
    columns c (some (fields ++ [f])) false =
      if f ∈ c.visibleFields ∧ f ∉ columns c (some fields) false then
        columns c (some fields) false ++ [f]
      else columns c (some fields) false := by
  simp [columns, List.foldl_append]

/-- The identity is shown, and of the fields that are wanted those that may be. -/
theorem mem_columns_iff {fields : List String} {f : String} :
    f ∈ columns c (some fields) false ↔ f = "id" ∨ f ∈ c.visibleFields ∧ f ∈ fields := by
  induction fields using List.reverseRecOn with
  | nil => simp [columns]
  | append_singleton fields g ih =>
    rw [columns_concat, List.mem_append, List.mem_singleton]
    split
    next hnew =>
      rw [List.mem_append, List.mem_singleton, ih]
      constructor
      · rintro ((hid | ⟨hvisible, hf⟩) | rfl)
        · exact .inl hid
        · exact .inr ⟨hvisible, .inl hf⟩
        · exact .inr ⟨hnew.1, .inr rfl⟩
      · rintro (hid | ⟨hvisible, hf | hf⟩)
        · exact .inl (.inl hid)
        · exact .inl (.inr ⟨hvisible, hf⟩)
        · exact .inr hf
    next hold =>
      refine ⟨fun hf => (ih.1 hf).imp_right fun h => ⟨h.1, .inl h.2⟩, ?_⟩
      rintro (hid | ⟨hvisible, hf | rfl⟩)
      · exact ih.2 (.inl hid)
      · exact ih.2 (.inr ⟨hvisible, hf⟩)
      · by_contra hnew
        exact hold ⟨hvisible, hnew⟩

theorem names_recordOf (k : Kept c l) (projection : Option (List String)) (row : Row) :
    Record.names (recordOf c (l.shown (columns c projection false)) row) = columns c projection false := by
  obtain ⟨hnodup, _, hdeclared⟩ := columns_spec k projection false
  rw [recordOf_shown k hnodup hdeclared, Record.names, List.map_map]
  exact List.map_id _

/-! ## Rows -/

/-- A selection from a table that is not there finds nothing. -/
theorem readable_of_select {clauses : List Clause} {s : Selection} {records : List Record}
    (h : db.select c clauses s = .ok records) : ∃ t, db.readableTable c.name = .ok t := by
  cases htable : db.readableTable c.name with
  | ok t => exact ⟨t, rfl⟩
  | error failure =>
    unfold Database.select at h
    rw [htable] at h
    dsimp only at h
    obtain ⟨_, _, h⟩ := bind_eq_ok.1 h
    split at h
    · cases h
    · cases h

/-- What a selection finds are rows, and with other fields wanted it finds the same. -/
theorem found_projected (h : db.Catalogued) (k : Kept c l) {s : Selection} (hides : s.includeHidden = false)
    {records : List Record} (hfound : db.found c s = .ok records) :
    ∃ rows : List Row, ∀ projection, db.found c { s with projection } =
      .ok (rows.map (recordOf c (l.shown (columns c projection false)))) := by
  unfold Database.found at hfound ⊢
  dsimp only
  cases hclauses : Condition.clauses? c s.conditions with
  | none =>
    rw [hclauses] at hfound
    cases hfound
  | some clauses =>
    rw [hclauses] at hfound
    dsimp only at hfound ⊢
    obtain ⟨rows, htable⟩ : ∃ rows, db.readableTable c.name = .ok ⟨l, rows⟩ := by
      obtain ⟨t, ht⟩ := readable_of_select hfound
      rcases readableTable_hiding h k with ⟨hnone, _⟩ | ⟨rows, hrows, _⟩
      · cases ht.symm.trans hnone
      · exact ⟨rows, hrows⟩
    have hdeclared : ∀ clause ∈ clauses, ∀ f, columnOf? clause = some f → f ∈ c.fieldNames :=
      fun clause hclause f hf => columnOf?_declared hclauses hclause hf
    simp only [select_of_table htable k hdeclared, selected] at hfound ⊢
    cases hbounds : (s.statement c clauses).keepsBounds with
    | false =>
      rw [hbounds, if_neg Bool.false_ne_true] at hfound
      cases hfound
    | true =>
      rw [hbounds, if_pos rfl] at hfound
      obtain ⟨tests, htests, hfound⟩ := bind_eq_ok.1 hfound
      obtain ⟨bounds, hwindow, _⟩ := bind_eq_ok.1 hfound
      refine ⟨window bounds.1 bounds.2 (sortRows (rowKeys c s.sort)
        (rows.filter fun row => tests.all (Test.holds l row))), fun projection => ?_⟩
      -- no more than twenty columns can be asked for, so that they do not break a bound
      have hkeeps : ({ s with projection }.statement c clauses).keepsBounds = true := by
        obtain ⟨_, horder, hjoin, hparameters⟩ := keepsBounds_iff.1 hbounds
        exact keepsBounds_iff.2 ⟨Nat.le_trans (columns_length k projection s.includeHidden) (by decide),
          horder, hjoin, hparameters⟩
      rw [hkeeps, if_pos rfl, htests, hwindow, hides]
      rfl

end Store

namespace ListRequest

variable {r : ListRequest} {c : Collection} {l : Layout} {related : Option Include} {inc : Include}
  {around : Surroundings} {state : State}

/-! ## Requests -/

/-- The fields that a text names and that may be shown. -/
def namedFields (c : Collection) (t : String) : List String :=
  (splitList t).filter fun f => c.hasField f && !c.isHidden f

theorem mem_namedFields {t f : String} :
    f ∈ namedFields c t ↔ f ∈ c.visibleFields ∧ f ∈ splitList t := by
  rw [namedFields, List.mem_filter, Bool.and_eq_true, hasField_iff, Collection.visibleFields,
    List.mem_filter, and_comm]

/-- Asking for fields changes nothing else about a request. -/
theorem parse_select (c : Collection) (params : Parameters) (n : Int) (t : String) :
    parse c (params.put "select" (.one t)) n =
      { parse c params n with projection := some (namedFields c t) } := by
  have hother {name : String} (hname : name ≠ "select") :
      (params.put "select" (.one t)).lookup name = params.lookup name := by
    rw [Parameters.lookup_put, if_neg hname]
  have hselect : (params.put "select" (.one t)).lookup "select" = some (.one t) := by
    rw [Parameters.lookup_put, if_pos rfl]
  have hsort : (params.put "select" (.one t)).lookup "sort" = params.lookup "sort" := hother (by decide)
  unfold parse
  rw [Parameters.flatMap_put fun _ => rfl, hselect, hsort, hother (by decide), hother (by decide)]
  rfl

/-- The field that related records are found by is fetched beside those that are wanted, and if it is
not one of them it is taken out again. -/
theorem columns_fetched (r : ListRequest) (hlocal : inc.localField ∈ c.visibleFields) :
    columns c (r.fetched (some inc)) false =
        columns c r.projection false ++ (if r.dropsLocal inc then [inc.localField] else []) ∧
      (r.dropsLocal inc = true → inc.localField ∉ columns c r.projection false) := by
  unfold fetched dropsLocal
  cases r.projection with
  | none => exact ⟨(List.append_nil _).symm, fun hdrops => nomatch hdrops⟩
  | some fields =>
    dsimp only
    have hcolumns : inc.localField ∈ columns c (some fields) false ↔ _ := mem_columns_iff
    by_cases hin : inc.localField ∈ fields
    · simp [hin]
    · by_cases hid : inc.localField = "id"
      · -- the identity is shown whether it is wanted or not, and stays
        have hold : inc.localField ∈ columns c (some fields) false := hcolumns.2 (.inl hid)
        have hkept : ¬ (inc.localField ∈ c.visibleFields ∧
            inc.localField ∉ columns c (some fields) false) := fun hnew => hnew.2 hold
        have hsame := columns_concat c fields inc.localField
        rw [if_neg hkept] at hsame
        simp [hid ▸ hin, hid, hid ▸ hsame]
      · have hnew : inc.localField ∉ columns c (some fields) false := by
          rw [hcolumns]
          rintro (heq | ⟨_, hwanted⟩)
          · exact hid heq
          · exact hin hwanted
        simp [hin, hid, hnew, columns_concat, hlocal]

/-! ## Rows -/

/-- The key that related records of a row are found by. -/
def linkOf (inc : Include) (row : Row) : Datum := (row.read (fieldReference inc.localField)).toDatum

/-- What is looked up for the rows of a page. -/
def lookedUpFor (related : Option Include) (rows : List Row) : Service (List Record) :=
  match related with
  | none => pure []
  | some inc => lookedUp {} inc ((rows.map (linkOf inc)).filter fun d => !d.isNull)

/-- What is attached to a row out of the records that were looked up. -/
def attachedTo (related : Option Include) (found : List Record) (row : Row) : Record :=
  match related with
  | none => []
  | some inc => [(inc.path, attachment inc found (linkOf inc row))]

/-- The record of a row as a list shows it. -/
def entry (c : Collection) (l : Layout) (projection : Option (List String)) (related : Option Include)
    (found : List Record) (row : Row) : Record :=
  recordOf c (l.shown (columns c projection false)) row ++ attachedTo related found row

/-- The path of an inclusion is no field. -/
theorem path_new (listed : Listed c l (some inc)) : inc.path ∉ c.fieldNames := by
  cases listed <;> decide

theorem path_not_shown (listed : Listed c l (some inc)) (projection : Option (List String)) :
    inc.path ∉ columns c projection false :=
  fun hpath => path_new listed ((columns_spec listed.kept projection false).2.2 _ hpath)

theorem field_fetched (listed : Listed c l (some inc)) (r : ListRequest) (row : Row) :
    Record.field (recordOf c (l.shown (columns c (r.fetched (some inc)) false)) row) inc.localField =
      linkOf inc row := by
  have hkey := listed.attaches.localKey
  rw [Record.field, get?_key listed.kept hkey _ (localField_fetched hkey)]
  rfl

/-- Attaching related records to what was fetched, and taking out what was not wanted. -/
theorem entry_of_fetched (listed : Listed c l (some inc)) (r : ListRequest) (found : List Record)
    (row : Row) :
    let record := recordOf c (l.shown (columns c (r.fetched (some inc)) false)) row
    let full := Record.put record inc.path (attachment inc found (Record.field record inc.localField))
    (if r.dropsLocal inc then Record.remove full inc.localField else full) =
      entry c l r.projection (some inc) found row := by
  intro record full
  have k := listed.kept
  have hkey := listed.attaches.localKey
  obtain ⟨hnodup, _, hdeclared⟩ := columns_spec k (r.fetched (some inc)) false
  obtain ⟨hwanted, _, hshown⟩ := columns_spec k r.projection false
  obtain ⟨hfetched, hdrops⟩ := columns_fetched r hkey.1
  have hfull : full = record ++ [(inc.path, attachment inc found (linkOf inc row))] := by
    rw [← field_fetched listed r row]
    refine Record.put_new ?_ _
    rw [names_recordOf k]
    exact path_not_shown listed _
  have hrecord : record = (columns c r.projection false ++
      (if r.dropsLocal inc then [inc.localField] else [])).map
        fun f => (f, shown c f (row.read (fieldReference f))) := by
    rw [← hfetched]
    exact recordOf_shown k hnodup hdeclared row
  rw [hfull, hrecord, entry, attachedTo, recordOf_shown k hwanted hshown]
  cases hdrop : r.dropsLocal inc with
  | false => simp
  | true =>
    have hstays : ∀ f ∈ columns c r.projection false, f ≠ inc.localField := by
      rintro f hf rfl
      exact hdrops hdrop hf
    have hpath : inc.path ≠ inc.localField := fun heq =>
      path_new listed (heq ▸ visible_subset hkey.1)
    have hkept : ((columns c r.projection false).map
        fun f => (f, shown c f (row.read (fieldReference f)))).filter
          (fun entry => entry.1 != inc.localField) =
        (columns c r.projection false).map fun f => (f, shown c f (row.read (fieldReference f))) := by
      refine List.filter_eq_self.2 fun entry hentry => ?_
      obtain ⟨f, hf, rfl⟩ := List.mem_map.1 hentry
      exact bne_iff_ne.2 (hstays f hf)
    rw [if_pos rfl, if_pos rfl, Record.remove, List.map_append, List.filter_append, List.filter_append,
      hkept]
    simp [hpath]

/-- A request whose conditions are met by rows shows each of them on its own. -/
theorem run_of_rows (listed : Listed c l related) {total : Nat} {rows : List Row}
    (hcounted : state.database.counted c r.conditions = .ok total)
    (hfound : state.database.found c (r.selection related) =
      .ok (rows.map (recordOf c (l.shown (columns c (r.fetched related) false))))) :
    Service.run (r.run c related {}) around state = Service.run (do
      let found ← lookedUpFor related rows
      return ResultPage.mk (rows.map (entry c l r.projection related found)) total r.page r.limit)
        around state := by
  have hfind : Service.run (({} : Store).find c
      { conditions := r.conditions, projection := r.fetched related, sort := r.sort, skip := r.skip,
        limit := some r.limit }) around state = _ :=
    (run_find c (r.selection related)).trans (congrArg (·, state) hfound)
  unfold ListRequest.run
  rw [run_bind, run_count, hcounted]
  dsimp only
  rw [run_bind, hfind]
  dsimp only
  cases related with
  | none =>
    have hentry : entry c l r.projection none [] =
        recordOf c (l.shown (columns c r.projection false)) :=
      funext fun row => List.append_nil _
    rw [fetched_none, lookedUpFor]
    simp only [pure_bind, hentry]
  | some inc =>
    have hkeys : localKeys inc
        (rows.map (recordOf c (l.shown (columns c (r.fetched (some inc)) false)))) =
        (rows.map (linkOf inc)).filter fun d => !d.isNull := by
      rw [localKeys, List.map_map]
      exact congrArg _ (List.map_congr_left fun row _ => field_fetched listed r row)
    -- the keys do not depend on the fields that are wanted, and neither does what they lead to
    dsimp only
    rw [populate_eq, hkeys, bind_assoc, lookedUpFor]
    refine congrArg (Service.run · around state) (bind_congr fun found => ?_)
    have hentry : entry c l r.projection (some inc) found = _ :=
      funext fun row => (entry_of_fetched listed r found row).symm
    simp only [pure_bind, List.map_map, hentry]
    cases r.dropsLocal inc <;> rfl

/-! ## Cutting down -/

theorem get?_entry_field (k : Kept c l) {projection : Option (List String)} {f : String}
    (hf : f ∈ columns c projection false) (found : List Record) (row : Row) :
    Record.get? (entry c l projection related found row) f =
      some (shown c f (row.read (fieldReference f))) := by
  obtain ⟨hnodup, _, hdeclared⟩ := columns_spec k projection false
  have hfield : List.lookup f (recordOf c (l.shown (columns c projection false)) row) = _ :=
    get?_recordOf k hnodup hdeclared row hf
  rw [entry, Record.get?, List.lookup_append, hfield, Option.some_or]

theorem get?_entry_path (listed : Listed c l (some inc)) (projection : Option (List String))
    (found : List Record) (row : Row) :
    Record.get? (entry c l projection (some inc) found row) inc.path =
      some (attachment inc found (linkOf inc row)) := by
  have hnone : List.lookup inc.path (recordOf c (l.shown (columns c projection false)) row) = none := by
    have hnew : Record.has (recordOf c (l.shown (columns c projection false)) row) inc.path = false := by
      refine Record.has_eq_false ?_
      rw [names_recordOf listed.kept]
      exact path_not_shown listed projection
    exact Option.not_isSome_iff_eq_none.1 (Bool.eq_false_iff.1 hnew)
  rw [entry, Record.get?, List.lookup_append, hnone, Option.none_or, attachedTo, List.lookup_cons_self]

/-- The names under which a list shows something of its records if it is asked for fields. -/
def shownNames (c : Collection) (fields : List String) (related : Option Include) : List String :=
  columns c (some fields) false ++ (related.map (·.path)).toList

theorem names_entry (k : Kept c l) (fields : List String) (found : List Record) (row : Row) :
    Record.names (entry c l (some fields) related found row) = shownNames c fields related := by
  have hattached : Record.names (attachedTo related found row) = (related.map (·.path)).toList := by
    cases related <;> rfl
  rw [Record.names] at hattached
  rw [entry, Record.names, List.map_append, hattached]
  exact congrArg (· ++ _) (names_recordOf k (some fields) row)

/-- The record of a row with some fields is that with all, cut down. -/
theorem only_entry (listed : Listed c l related) (fields : List String) (found : List Record)
    (row : Row) : Record.only (entry c l none related found row) (shownNames c fields related) =
      entry c l (some fields) related found row := by
  have k := listed.kept
  obtain ⟨hnodup, _, hdeclared⟩ := columns_spec k (some fields) false
  have hfields : Record.only (entry c l none related found row) (columns c (some fields) false) =
      recordOf c (l.shown (columns c (some fields) false)) row := by
    rw [recordOf_shown k hnodup hdeclared]
    refine Record.only_eq fun f hf => get?_entry_field k ?_ found row
    exact columns_available k hf
  have hattached : Record.only (entry c l none related found row) (related.map (·.path)).toList =
      attachedTo related found row := by
    cases related with
    | none => rfl
    | some inc =>
      show Record.only _ [inc.path] = [inc.path].map fun n => (n, attachment inc found (linkOf inc row))
      refine Record.only_eq fun n hn => ?_
      rw [List.mem_singleton.1 hn]
      exact get?_entry_path listed none found row
  rw [shownNames, Record.only, List.filterMap_append]
  exact congrArg₂ (· ++ ·) hfields hattached

/-- A request for all fields that has a page, and the same request for some of them: its page is the same
with every record cut down. -/
theorem run_selected (catalogued : state.database.Catalogued) (listed : Listed c l related)
    (hall : r.projection = none) {page : ResultPage} {after : State}
    (hrun : Service.run (r.run c related {}) around state = (.ok page, after)) (fields : List String) :
    Service.run ({ r with projection := some fields }.run c related {}) around state =
        (.ok { page with records := page.records.map (Record.only · (shownNames c fields related)) },
          after) ∧
      ∀ record ∈ page.records, Record.names (Record.only record (shownNames c fields related)) =
        shownNames c fields related := by
  obtain ⟨⟨total, hcounted⟩, records, hfound⟩ := read_of_run hrun
  -- both requests find the same rows, so that they go the same way from there on
  obtain ⟨rows, hrows⟩ := found_projected catalogued listed.kept rfl hfound
  rw [run_of_rows listed hcounted (hrows (r.fetched related)), hall, run_bind] at hrun
  rw [run_of_rows (r := { r with projection := some fields }) listed hcounted (hrows _), run_bind]
  cases hlooked : Service.run (lookedUpFor related rows) around state with
  | mk outcome reached =>
    rw [hlooked] at hrun
    cases outcome with
    | error failure => exact nomatch hrun
    | ok found =>
      cases hrun
      dsimp only
      constructor
      · rw [run_pure, List.map_map]
        have hcut : (Record.only · (shownNames c fields related)) ∘ entry c l none related found =
            entry c l (some fields) related found :=
          funext fun row => only_entry listed fields found row
        rw [hcut]
      · intro record hrecord
        obtain ⟨row, _, rfl⟩ := List.mem_map.1 hrecord
        rw [only_entry listed, names_entry listed.kept]

theorem nodup_shownNames (listed : Listed c l related) (fields : List String) :
    (shownNames c fields related).Nodup := by
  obtain ⟨hnodup, _, _⟩ := columns_spec listed.kept (some fields) false
  cases related with
  | none => simpa [shownNames] using hnodup
  | some inc =>
    refine List.nodup_append.2 ⟨hnodup, List.nodup_singleton _, fun f hf g hg => ?_⟩
    rw [List.mem_singleton.1 hg]
    rintro rfl
    exact path_not_shown listed _ hf

/-! ## Results -/

/-- A list request without `select` that is answered, in any database of the catalog, and the same request
with one. The answer stays as it is but for its records, of which each is cut down to its identity, the
fields that are named and may be shown, and what is attached to it; what is kept of them is as it was. -/
theorem answer_selected (catalogued : state.database.Catalogued) (listed : Listed c l related)
    {params : Parameters} (unselected : params.lookup "select" = none) {envelope : Record} {after : State}
    (answered : Service.run (answer c params related {}) around state = (.ok envelope, after))
    (t : String) :
    ∃ (page : ResultPage) (names : List String), envelope = page.envelope ∧
      Service.run (answer c (params.put "select" (.one t)) related {}) around state =
        (.ok { page with records := page.records.map (Record.only · names) }.envelope, after) ∧
      names.Nodup ∧
      (∀ name, name ∈ names ↔ name = "id" ∨ (name ∈ c.visibleFields ∧ name ∈ splitList t) ∨
        ∃ inc ∈ related, name = inc.path) ∧
      ∀ record ∈ page.records, Record.names (Record.only record names) = names ∧
        ∀ name ∈ names, Record.get? (Record.only record names) name = Record.get? record name := by
  obtain ⟨page, henvelope, hrun⟩ := page_of_answered rfl answered
  have hall : (parse c params (defaultLimit around.settings none)).projection = none := by
    show Option.map _ (params.lookup "select") = none
    rw [unselected]
    rfl
  obtain ⟨hselected, hnames⟩ := run_selected catalogued listed hall hrun (namedFields c t)
  refine ⟨page, shownNames c (namedFields c t) related, henvelope, ?_, nodup_shownNames listed _, ?_, ?_⟩
  · unfold answer
    rw [run_bind, run_read]
    dsimp only
    rw [parse_select, run_bind, hselected]
    rfl
  · intro name
    rw [shownNames, List.mem_append, mem_columns_iff, mem_namedFields]
    cases related with
    | none => simp
    | some inc => simp [or_assoc]
  · intro record hrecord
    refine ⟨hnames record hrecord, fun name hname => ?_⟩
    rw [Record.get?_only, if_pos hname]

/-- Courses by title, of which the title is asked for, and a password, which courses do not have. -/
theorem titles_of_priced :
    let state := Operation.runAll .fresh Operation.priced
    let answered (params : Parameters) :=
      Service.run (answer .courses params (some .schoolSummary) {}) Operation.calm state
    state.database.Catalogued ∧ ∃ (page : ResultPage) (names : List String),
      answered [("sort", .one "title")] = (.ok page.envelope, state) ∧
      answered [("sort", .one "title"), ("select", .one "title, password")] =
        (.ok { page with records := page.records.map (Record.only · names) }.envelope, state) ∧
      "title" ∈ names ∧ "school" ∈ names ∧ "password" ∉ names := by
  intro state answered
  have sound : state.database.Sound :=
    (Operation.current_run (show Operation.Working Operation.priced by decide)).sound
  have hparse : parse .courses [("sort", .one "title")] (defaultLimit Operation.calm.settings none) =
      { sort := [⟨"title", false⟩] } := rfl
  have hanswer := run_answer sound .courses (show Operation.calm.Batched by decide) hparse (by decide)
  rw [if_pos (by decide)] at hanswer
  obtain ⟨page, names, henvelope, hselected, _, hnames, _⟩ :=
    answer_selected sound.standing.catalogued .courses rfl hanswer "title, password"
  refine ⟨sound.standing.catalogued, page, names, ?_, hselected, ?_, ?_, ?_⟩
  · rw [← henvelope]
    exact hanswer
  · rw [hnames]
    exact .inr (.inl (by decide))
  · rw [hnames]
    exact .inr (.inr ⟨.schoolSummary, rfl, rfl⟩)
  · rw [hnames]
    rintro (hid | ⟨hvisible, _⟩ | ⟨inc, hinc, hpath⟩)
    · exact absurd hid (by decide)
    · exact absurd hvisible (by decide)
    · cases hinc
      exact absurd hpath (by decide)

end ListRequest
end SchoolCatalog
