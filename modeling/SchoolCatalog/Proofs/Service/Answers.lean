import SchoolCatalog.Proofs.Service.Writes
import SchoolCatalog.Proofs.Store.Refusing

/-!
# How operations come out

What an operation answers is decided before it starts: looking up what is there and drawing a stamp
or a salt always succeeds in ordinary surroundings, a write comes out as the values and the rows
decide, and what follows a write never fails. The rules go through the ways of building operations.

Results:
1. `Gives.bind`, `Meets.wording`, `Meets.bind`: the rules for building operations.
2. `meets_insert`, `meets_update`: how writing comes out.
3. `gives_record`, `gives_find`, `gives_ensureOwner`: what comes before a write.
4. `succeeds_finish`: what comes after it.
-/

namespace SchoolCatalog

open Store Store.Database

/-- Surroundings as a server has them, with no geocoder set up: the clock keeps to the calendar, passwords
can be digested, and no update gets lost. -/
structure Surroundings.Ordinary (around : Surroundings) : Prop where
  stamps : ∀ n, (stamp? (around.instant n)).isSome = true
  iterations : 1 ≤ around.iterations ∧ around.iterations ≤ Password.mostIterations
  working : around.losesUpdates = false
  unlocating : Geo.Geocoder.ofSettings? around.settings = none

namespace Service

variable {α β : Type} {around : Surroundings} {db mid : Database} {c : Collection} {l : Layout}
  {values : Record} {x : Service α} {known : α → Prop} {hurdles : Hurdles} {refusal : Failure → Prop}

/-! ## Rules -/

/-- The operation answers and leaves the database as it is, and something is known of its answer. -/
def Gives (around : Surroundings) (db : Database) (x : Service α) (known : α → Prop) : Prop :=
  Ensures around db x fun result after => after = db ∧ ∃ a, result = .ok a ∧ known a

/-- The operation answers. -/
def Succeeds (around : Surroundings) (db : Database) (x : Service α) : Prop :=
  Ensures around db x fun result _ => ∃ a, result = .ok a

/-- The operation comes out as hurdles decide. -/
def Meets (around : Surroundings) (db : Database) (x : Service α) (hurdles : Hurdles)
    (refusal : Failure → Prop) : Prop :=
  Ensures around db x fun result _ => Verdict hurdles refusal result

theorem gives_pure {a : α} (h : known a) : Gives around db (pure a : Service α) known :=
  Ensures.pure ⟨rfl, a, rfl, h⟩

theorem gives_ofExcept {result : Except Failure α} {a : α} (h : result = .ok a) :
    Gives around db (Service.ofExcept result) (· = a) :=
  Ensures.ofExcept ⟨rfl, a, h, rfl⟩

theorem gives_surroundings : Gives around db (MonadReader.read : Service Surroundings) (· = around) := by
  rintro state rfl
  exact ⟨rfl, around, rfl, rfl⟩

/-- An operation that begins with something that answers. -/
theorem Gives.bind {f : α → Service β} {post : Except Failure β → Database → Prop}
    (hx : Gives around db x known) (hf : ∀ a, known a → Ensures around db (f a) post) :
    Ensures around db (x >>= f) post := by
  refine Ensures.bind hx ?_ ?_
  · rintro a _ ⟨rfl, _, ⟨⟩, hknown⟩
    exact hf a hknown
  · rintro failure _ ⟨_, _, hanswer, _⟩
    exact nomatch hanswer

theorem Gives.weaken {weaker : α → Prop} (hx : Gives around db x known)
    (himp : ∀ a, known a → weaker a) : Gives around db x weaker := by
  refine Ensures.weaken hx ?_
  rintro _ _ ⟨hsame, a, hanswer, hknown⟩
  exact ⟨hsame, a, hanswer, himp a hknown⟩

theorem Gives.map {f : α → β} {known : β → Prop} (hx : Gives around db x fun a => known (f a)) :
    Gives around db (f <$> x) known := by
  refine Ensures.map (Ensures.weaken hx ?_)
  rintro _ _ ⟨hsame, a, rfl, hknown⟩
  exact ⟨hsame, f a, rfl, hknown⟩

theorem Meets.map {f : α → β} (hx : Meets around db x hurdles refusal) :
    Meets around db (f <$> x) hurdles refusal :=
  Ensures.map (Ensures.weaken hx fun _ _ hverdict => hverdict.map f)

/-- Where a write is contested, the rule that it breaks is reported in one way, whichever it is. -/
theorem Meets.wording {report : Violation → Service α} {failure : Failure}
    (hx : Meets around db x hurdles Failure.IsViolation)
    (hreport : ∀ rule mid, Ensures around mid (report rule) fun result _ => result = .error failure) :
    Meets around db (Service.wording x report) hurdles (· = failure) := by
  intro state hstate
  have hverdict := hx state hstate
  rw [run_wording]
  rcases hrun : run x around state with ⟨result, next⟩
  rw [hrun] at hverdict
  cases hverdict with
  | garbled hgarbled => exact .garbled hgarbled
  | full hclear hfull => exact .full hclear hfull
  | contested hclear hroom hcontested hrefused =>
    obtain ⟨rule, rfl⟩ := hrefused
    dsimp only
    rw [hreport rule next.database next rfl]
    exact .contested hclear hroom hcontested rfl
  | free hclear hroom hfree => exact .free hclear hroom hfree

/-- What comes after a write that is judged always answers. -/
theorem Meets.bind {f : α → Service β} {done : α → Database → Prop}
    (hx : Meets around db x hurdles refusal) (hdone : Achieves around db x done)
    (hf : ∀ a mid, done a mid → Succeeds around mid (f a)) :
    Meets around db (x >>= f) hurdles refusal := by
  have hboth : Ensures around db x fun result after =>
      Verdict hurdles refusal result ∧ Outcome db done result after :=
    fun state hstate => ⟨hx state hstate, hdone state hstate⟩
  refine hboth.bind ?_ ?_
  · rintro a mid ⟨hverdict, hafter⟩
    refine Ensures.weaken (hf a mid hafter) ?_
    rintro _ _ ⟨b, rfl⟩
    exact hverdict.ok
  · rintro failure mid ⟨hverdict, _⟩
    exact hverdict.error

/-! ## Before a write -/

/-- What is looked up by what stands for its identity is found. -/
theorem gives_record (h : db.Sound) (k : Kept c l) {id : Datum} {row : Row}
    (hrow : row ∈ db.rows l.name) (hid : id.Denotes row.id) (projection : Option (List String)) :
    Gives around db (({} : Store).get c id projection) fun found =>
      found = some (recordOf c (l.shown (columns c projection false)) row) := by
  rintro state rfl
  rw [run_getRecord, record?_of_denotes h k hrow hid]
  exact ⟨rfl, _, rfl, rfl⟩

theorem gives_find (h : db.Sound) (k : Kept c l) {id : Datum} {row : Row}
    (hrow : row ∈ db.rows l.name) (hid : id.Denotes row.id) (missing : Failure) :
    Gives around db (do
      match ← ({} : Store).get c id none with
      | some record => return record
      | none => Service.fail missing) (· = row.record c l) := by
  refine (gives_record h k hrow hid none).bind ?_
  rintro _ rfl
  exact gives_pure rfl

theorem gives_ensureOwner {caller : Caller} {record : Record} (hmay : caller.mayChange record = true)
    (action : String) :
    Gives around db (Service.ofExcept (caller.ensureOwner record action)) fun _ => True :=
  (gives_ofExcept (if_pos hmay)).weaken fun _ _ => trivial

/-! ## After a write -/

theorem succeeds_return (text : String) (b : β) : Succeeds around mid (do Service.info text; return b) :=
  Ensures.info_bind (Ensures.pure ⟨b, rfl⟩)

/-- Recomputing an average never stands in the way. -/
theorem succeeds_finish {a : Aggregate} {school : Datum} {s : Int} (h : mid.Sound)
    (hs : school.Denotes s) (text : String) (b : β) : Succeeds around mid (do
      Service.info text
      a.recompute school {}
      return b) := by
  refine Ensures.info_bind ((Aggregate.ensures_recompute h hs).bind ?_ ?_)
  · exact fun _ _ _ => Ensures.pure ⟨b, rfl⟩
  · rintro failure _ ⟨⟨_, hdone⟩, _⟩
    exact nomatch hdone

/-! ## Writing -/

theorem proposal_stamped (k : Kept c l) (hvalues : Proposal c l values)
    (hunstamped : "created_at" ∉ Record.names values) (stamp : String) :
    Proposal c l (values ++ [("created_at", .text stamp)]) := by
  have hstamp : l.Takes "created_at" (.text stamp) := by
    refine takes_optional (legible_wording (.proper stamp)) ?_
    cases k <;> decide
  rw [← stamped_eq hvalues.columns hunstamped]
  refine ⟨forColumns_stamped k values stamp, nodup_stamped hvalues.nodup, fun entry hentry => ?_⟩
  rcases mem_stamped hentry with hentry | rfl
  · exact hvalues.taken entry (mem_writable hentry)
  · exact hstamp

/-- How inserting values comes out that make a row. -/
theorem meets_insert (h : db.Sound) (k : Kept c l) (hordinary : around.Ordinary)
    (hvalues : Proposal c l values) (hunstamped : "created_at" ∉ Record.names values)
    (hcomplete : ∀ col ∈ l.columns, col.name ∉ Record.names values → col.Admits col.default)
    (hprovides : db.Provides l values) {contested : Prop}
    (hcontested : ∀ row : Row, row.Stores l values → (l.Clashes row (db.rows l.name) ↔ contested)) :
    Meets around db (({} : Store).insert c values)
      ⟨Garbled values, db.IsFull l.name, contested⟩ Failure.IsViolation := by
  rintro state rfl
  obtain ⟨stamp, hstamp⟩ := Option.isSome_iff_exists.1 (hordinary.stamps state.stamps)
  have hpart {entry : String × Datum} (hentry : entry ∈ values) :
      entry ∈ values ++ [("created_at", .text stamp)] := List.mem_append_left _ hentry
  have hverdict := verdict_insert h k (proposal_stamped k hvalues hunstamped stamp)
    (fun col hcol hnot => hcomplete col hcol fun hgiven => hnot (by
      obtain ⟨entry, hentry, hname⟩ := List.mem_map.1 hgiven
      exact List.mem_map.2 ⟨entry, hpart hentry, hname⟩))
    (fun link hlink => by
      obtain ⟨p, hp, d, hd, hdenotes⟩ := hprovides link hlink
      exact ⟨p, hp, d, hpart hd, hdenotes⟩)
    fun row hstores => hcontested row (hstores.mono fun _ => hpart)
  have hgarbled : Garbled (values ++ [("created_at", .text stamp)]) ↔ Garbled values := by
    refine garbled_append_clear ?_
    rintro ⟨_, hentry, _, hbroken⟩
    rw [List.mem_singleton.1 hentry] at hbroken
    exact nomatch hbroken
  rw [propext hgarbled] at hverdict
  have hcolumns := forColumns_stamped k values stamp
  rw [run_insert, hstamp]
  dsimp only
  rw [← stamped_eq hvalues.columns hunstamped] at hverdict
  cases hinsert : state.database.insert c (stamped c values stamp) with
  | error failure =>
    rw [hinsert] at hverdict
    exact hverdict.error
  | ok result =>
    obtain ⟨after, id⟩ := result
    rw [hinsert] at hverdict
    obtain ⟨row, rfl, rfl, hsound, _⟩ := insert_spec h k hcolumns hinsert
    dsimp only
    rw [record?_grown h k hsound]
    exact hverdict.ok

/-- How writing values over those of a row comes out. -/
theorem meets_update (h : db.Sound) (k : Kept c l) (hordinary : around.Ordinary)
    (hvalues : Proposal c l values)
    (hunlinked : ∀ link ∈ l.parents, link.1 ∉ Record.names values) {id : Datum} {old : Row}
    (hold : old ∈ db.rows l.name) (hid : id.Denotes old.id) {contested : Prop}
    (hcontested : ∀ row : Row, (∀ col ∈ l.columns,
      Written values col (old.cell col.name) (row.cell col.name)) →
        (l.Clashes row ((db.rows l.name).filter (·.id != old.id)) ↔ contested)) :
    Meets around db (({} : Store).update c id values) ⟨Garbled values, False, contested⟩
      Failure.IsViolation := by
  rintro state rfl
  have hverdict := verdict_update h k hvalues hunlinked hold hid hcontested
  rw [run_update c hordinary.working, writable_eq hvalues.columns]
  split
  next hempty =>
    -- nothing is written, so that the row stays as it was and clashes with no other
    obtain rfl := List.isEmpty_iff.1 hempty
    have hsame : ∀ col ∈ l.columns, Written [] col (old.cell col.name) (old.cell col.name) :=
      fun _ _ => .inr ⟨fun _ hd => (nomatch hd), rfl⟩
    rw [record?_of_denotes h k hold hid none]
    refine .free ?_ not_false ?_
    · rintro ⟨_, hentry, _⟩
      exact nomatch hentry
    · exact fun hcontest => not_clashes_of_kept h k.mem_standard hold (fun _ _ _ _ => rfl)
        ((hcontested old hsame).2 hcontest)
  next =>
    cases hupdate : state.database.update c id values with
    | error failure =>
      rw [hupdate] at hverdict
      exact hverdict.error
    | ok result =>
      obtain ⟨after, found⟩ := result
      rw [hupdate] at hverdict
      rcases update_spec h k hvalues.columns hupdate with
        ⟨_, _, hnone⟩ | ⟨rfl, same, hsame, row, hid', hrow, rfl, hsound, _⟩
      · exact absurd hid (hnone old hold)
      · dsimp only
        rw [if_pos rfl, record?_amended h k hsame hrow hsound hid']
        exact hverdict.ok

end Service
end SchoolCatalog
