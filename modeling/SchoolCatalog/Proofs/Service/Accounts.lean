import SchoolCatalog.Proofs.Service.Writes
import SchoolCatalog.Proofs.Store.Matching

/-!
# Operations on accounts

What each operation on accounts achieves. Whoever registers first is an admin. Deleting a user takes out
all that the user owns; the averages of the schools that lose a course or review by it and stay are those
that are looked up before, since the courses and reviews that go with the user are gone afterwards.

Results:
1. `achieves_register`, `achieves_updateAccount`: the rows that are written.
2. `mem_others`: the schools that lose a course or review and stay are those looked up.
3. `achieves_deleteAccount`: deleting a user, and recomputing all averages that it makes due.
4. `finds_authenticate`: who logs in.
-/

namespace SchoolCatalog

open Store Store.Database

namespace Service

variable {around : Surroundings} {db : Database}

/-! ## Writing accounts -/

/-- A password as it is kept with some salt. -/
def KeptAs (around : Surroundings) (password kept : String) : Prop :=
  ∃ salt, Password.keep (.proper password) salt around.iterations = .ok kept

theorem finds_keepPassword (password : String) :
    Finds around db (Accounts.keepPassword password) (KeptAs around password) := by
  unfold Accounts.keepPassword
  refine (spares_nextSalt lasting_database).finds.bind fun salt _ => ?_
  refine finds_surroundings.bind fun around' (hsame : around' = around) => ?_
  exact hsame ▸ (finds_ofExcept _).weaken fun kept hkept => ⟨salt, hkept⟩

/-- The values of a new account. -/
def newAccount (draft : AccountDraft) (role kept : String) : Record :=
  [("name", .text draft.name), ("email", .text (Text.lower draft.email)), ("password", .text kept),
    ("role", .text role)]

theorem suiting_newAccount (draft : AccountDraft) (role kept : String) :
    Suiting .users (newAccount draft role kept) := by
  simp only [Suiting, newAccount, List.forall_mem_cons]
  exact ⟨.inr rfl, .inr rfl, .inr rfl, .inr rfl, fun _ hnone => nomatch hnone⟩

/-- Adding an account with a role. -/
theorem achieves_addAccount (h : db.Sound) (draft : AccountDraft) (role : String) :
    Achieves around db (Accounts.add draft role) fun record after => ∃ kept row,
      KeptAs around draft.password kept ∧ db.Adds .users .users (newAccount draft role kept) row ∧
      after = db.grown .users row ∧ record = row.record .users .users := by
  unfold Accounts.add
  refine Achieves.read_bind (spares_info lasting_database _) fun _ => ?_
  refine (finds_keepPassword draft.password).bind fun kept hkept => ?_
  refine Achieves.wording ((achieves_insert h .users _).weaken ?_) fun _ => achieves_fail _
  rintro record after ⟨row, hadds, hafter, hrecord⟩
  exact ⟨kept, row, hkept, hadds, hafter, hrecord⟩

/-- The role of the one who registers: that asked for, but the first is an admin. -/
def registeredRole (db : Database) (draft : AccountDraft) : String :=
  if db.rows "users" = [] then "admin" else draft.role

theorem run_present {state : State} (h : state.database.Sound) :
    run (({} : Store).count .users []) around state =
      (.ok (state.database.rows "users").length, state) := by
  have hall : state.database.matching .users .users [] = state.database.rows "users" :=
    List.filter_eq_self.2 fun _ _ => rfl
  rw [run_count, counted_eq h.standing .users rfl (by decide), hall]
  rfl

theorem finds_present (h : db.Sound) :
    Finds around db (({} : Store).count .users []) fun n => n = (db.rows "users").length := by
  rintro state rfl
  rw [run_present h]
  exact ⟨rfl, rfl⟩

/-- Registering adds an account. -/
theorem achieves_register (h : db.Sound) (draft : AccountDraft) :
    Achieves around db (Accounts.register draft) fun record after => ∃ kept row,
      KeptAs around draft.password kept ∧
      db.Adds .users .users (newAccount draft (registeredRole db draft) kept) row ∧
      after = db.grown .users row ∧ record = row.record .users .users := by
  unfold Accounts.register
  refine (finds_present h).bind ?_
  rintro _ rfl
  have hrole : (if (db.rows "users").length = 0 then "admin" else draft.role) =
      registeredRole db draft := by
    simp only [registeredRole, List.length_eq_zero_iff]
  exact hrole ▸ achieves_addAccount h draft _

/-- The values of a change of an account. -/
def ChangedAccount (around : Surroundings) (change : AccountChange) (values : Record) : Prop :=
  ∃ kept, Option.Rel (KeptAs around) change.password kept ∧
    values = given { change with email := change.email.map Text.lower, password := kept }.fields

theorem finds_changedAccount (change : AccountChange) :
    Finds around db (Accounts.changedValues change) (ChangedAccount around change) := by
  have hend (kept : Option String) (hkept : Option.Rel (KeptAs around) change.password kept) :
      Finds around db (do
        let kept := { change with email := change.email.map Text.lower, password := kept }
        return given kept.fields) (ChangedAccount around change) :=
    finds_pure ⟨kept, hkept, rfl⟩
  unfold Accounts.changedValues
  split
  next password hsome =>
    have hkept : Finds around db (some <$> Accounts.keepPassword password)
        (Option.Rel (KeptAs around) change.password) :=
      Achieves.map ((finds_keepPassword password).weaken fun kept hkept => hsome ▸ .some hkept)
    exact hkept.bind hend
  next hnone =>
    have hkept : Finds around db (pure none) (Option.Rel (KeptAs around) change.password) :=
      finds_pure (by rw [hnone]; exact .none)
    exact hkept.bind hend

/-- The values of a change are of the fields of an account. -/
theorem ChangedAccount.absent {change : AccountChange} {values : Record}
    (h : ChangedAccount around change values) {name : String}
    (hname : name ∉ ["name", "email", "role", "password"]) (d : Datum) : (name, d) ∉ values := by
  obtain ⟨kept, _, rfl⟩ := h
  intro hd
  have hfield := List.mem_map_of_mem (f := Prod.fst) (mem_given hd)
  exact hname hfield

theorem ChangedAccount.suiting {change : AccountChange} {values : Record}
    (h : ChangedAccount around change values) : Suiting .users values := by
  obtain ⟨kept, _, rfl⟩ := h
  refine suiting_given ?_
  simp only [AccountChange.fields, List.forall_mem_cons, Option.map_eq_some_iff]
  refine ⟨?_, ?_, ?_, ?_, fun _ hnone => nomatch hnone⟩
  all_goals
    rintro _ ⟨_, _, rfl⟩
    rfl

/-- Writing the values of a change amends the account. -/
theorem achieves_writeAccount (h : db.Sound) (id : Datum) (values : Record) :
    Achieves around db (do
      let updated ← Service.wording (({} : Store).update .users id values) fun _ =>
        Service.fail (.conflict (.email (Record.field values "email")))
      match updated with
      | none => Service.fail (.missing (.account id))
      | some user => return user) fun record after => ∃ old row, id.Denotes old.id ∧
        db.Amends .users .users values old row ∧ after = db.amended .users row ∧
        record = row.record .users .users := by
  refine ((achieves_update h .users id values).wording fun _ => achieves_fail _).bind ?_
  rintro updated mid (⟨rfl, rfl, _⟩ | ⟨old, row, hid, hamends, rfl, rfl⟩)
  · exact achieves_fail _
  · exact Ensures.pure ⟨old, row, hid, hamends, rfl, rfl⟩

/-- Changing an account amends it. -/
theorem achieves_updateAccount (h : db.Sound) (id : Datum) (change : AccountChange) :
    Achieves around db (Accounts.update id change) fun record after => ∃ old row values,
      id.Denotes old.id ∧ ChangedAccount around change values ∧
      db.Amends .users .users values old row ∧ after = db.amended .users row ∧
      record = row.record .users .users := by
  unfold Accounts.update
  refine (finds_changedAccount change).bind fun values hvalues => ?_
  refine (achieves_writeAccount h id values).weaken ?_
  rintro record after ⟨old, row, hid, hamends, hafter, hrecord⟩
  exact ⟨old, row, values, hid, hvalues, hamends, hafter, hrecord⟩

/-! ## The schools that lose something -/

theorem mem_schoolIds {records : List Record} {field : String} {s : Int} :
    s ∈ Accounts.schoolIds records field ↔
      ∃ record ∈ records, (Record.field record field).wholeValue? = some s := by
  unfold Accounts.schoolIds
  rw [List.mem_mergeSort, mem_foldl_unseen, List.mem_filterMap]
  simp

/-- The identities that stand in a field of what a user owns. -/
theorem mem_schoolIds_found {c : Collection} {l : Layout} (h : db.Sound) (k : Kept c l)
    (huser : IsKey c l "user_id") {field : String} (hfield : IsKey c l field)
    (hshown : field ∈ columns c (some [field]) false) (hkind : c.kind? field = some .integer)
    {id : Datum} {records : List Record}
    (hfound : db.found c { conditions := [⟨"user_id", .eq, id⟩], projection := some [field] } =
      .ok records) {s : Int} :
    s ∈ Accounts.schoolIds records field ↔ ∃ row ∈ db.rows l.name,
      row.read (fieldReference field) = .int s ∧ ∃ u, row.cell "user_id" = .int u ∧ id.Denotes u := by
  have hrecords := (found_by_key h k huser id (some [field]) bindWindow_none).symm.trans hfound
  cases hv : Cell.bind id with
  | error fault => rw [hv] at hrecords; exact nomatch hrecords
  | ok v =>
    rw [hv] at hrecords
    obtain rfl := Except.ok.inj hrecords
    have hvalue {row : Row} (hrow : row ∈ db.rows l.name) :
        (Record.field (recordOf c (l.shown (columns c (some [field]) false)) row) field).wholeValue? =
          some s ↔ row.read (fieldReference field) = .int s := by
      obtain ⟨hnodup, _, hdeclared⟩ := columns_spec k (some [field]) false
      obtain ⟨i, hread, _⟩ := read_key h k hfield hrow
      rw [field_recordOf k hnodup hdeclared row hshown, hread, shown, hkind]
      simp [Datum.wholeValue?, Cell.toDatum]
    rw [mem_schoolIds]
    constructor
    · rintro ⟨record, hrecord, hwhole⟩
      obtain ⟨row, hrow, rfl⟩ := List.mem_map.1 hrecord
      obtain ⟨hrow, hkeyed⟩ := List.mem_filter.1 hrow
      exact ⟨row, hrow, (hvalue hrow).1 hwhole, (holds_key h k huser hv hrow).1 hkeyed⟩
    · rintro ⟨row, hrow, hread, howner⟩
      have hkeyed := (holds_key h k huser hv hrow).2 howner
      exact ⟨_, List.mem_map_of_mem (List.mem_filter.2 ⟨hrow, hkeyed⟩), (hvalue hrow).2 hread⟩

/-- The schools whose courses or reviews a user owns. -/
theorem mem_schoolIds_dependents (h : db.Sound) (a : Aggregate) {id : Datum} {records : List Record}
    (hfound : db.found a.dependents
      { conditions := [⟨"user_id", .eq, id⟩], projection := some ["school_id"] } = .ok records)
    {s : Int} :
    s ∈ Accounts.schoolIds records "school_id" ↔ ∃ row ∈ a.dependentsOf db s,
      ∃ u, row.cell "user_id" = .int u ∧ id.Denotes u := by
  rw [mem_schoolIds_found h a.kept_dependents (isKey_user a) a.isKey_school
    (by cases a <;> decide) (by cases a <;> rfl) hfound]
  constructor
  · rintro ⟨row, hrow, hread, howner⟩
    exact ⟨row, List.mem_filter.2 ⟨hrow, decide_eq_true hread⟩, howner⟩
  · rintro ⟨row, hrow, howner⟩
    obtain ⟨hrow, hbelongs⟩ := List.mem_filter.1 hrow
    exact ⟨row, hrow, of_decide_eq_true hbelongs, howner⟩

/-- The schools that a user owns. -/
theorem mem_schoolIds_schools (h : db.Sound) {id : Datum} {records : List Record}
    (hfound : db.found .schools
      { conditions := [⟨"user_id", .eq, id⟩], projection := some ["id"] } = .ok records) {s : Int} :
    s ∈ Accounts.schoolIds records "id" ↔ ∃ school ∈ db.rows "schools", school.id = s ∧
      ∃ u, school.cell "user_id" = .int u ∧ id.Denotes u := by
  rw [mem_schoolIds_found h .schools isKey_owner (isKey_id .schools) (by decide) rfl hfound]
  refine exists_congr fun school => and_congr_right fun _ => and_congr_left fun _ => ?_
  exact ⟨Cell.int.inj, congrArg Cell.int⟩

/-- The schools of some records that are none of a user's own. -/
def others (own records : List Record) : List Int :=
  (Accounts.schoolIds records "school_id").filter fun i =>
    !(Accounts.schoolIds own "id").contains i

/-- A school that stays when a user is deleted, and loses a course or review, is one of those whose
courses or reviews the user owns, and none of the user's own. -/
theorem mem_others (h : db.Sound) (a : Aggregate) {mid : Database} {id : Datum} {old : Row}
    (hold : old ∈ db.rows "users") (hid : id.Denotes old.id)
    (hdeleted : Deleted db "users" old.id mid) {schools records : List Record}
    (hschools : db.found .schools
      { conditions := [⟨"user_id", .eq, id⟩], projection := some ["id"] } = .ok schools)
    (hrecords : db.found a.dependents
      { conditions := [⟨"user_id", .eq, id⟩], projection := some ["school_id"] } = .ok records)
    {school : Row} (hschool : school ∈ mid.rows "schools")
    (hdue : dueForDeletion db "users" old.id a school.id) : school.id ∈ others schools records := by
  obtain ⟨row, hrow, ⟨hname, _⟩ | ⟨_, hcell⟩⟩ := hdue
  · exact absurd hname (by cases a <;> decide)
  -- it lost a row of the user's, and would have gone if it were the user's too
  refine List.mem_filter.2 ⟨?_, ?_⟩
  · exact (mem_schoolIds_dependents h a hrecords).2 ⟨row, hrow, old.id, hcell, hid⟩
  · rw [Bool.not_eq_true', ← Bool.not_eq_true, List.contains_iff_mem]
    intro hown
    obtain ⟨other, hother, hsame, u, howner, hu⟩ := (mem_schoolIds_schools h hschools).1 hown
    obtain ⟨hthere, hstays⟩ := (hdeleted.mem_iff h Kept.schools.mem_standard).1 hschool
    obtain rfl := h.eq_of_id Kept.schools.mem_standard hother hthere hsame
    obtain rfl := hu.unique hid
    exact hstays (.names Kept.schools.mem_standard (List.mem_singleton_self _) hother
      (.deleted Kept.users.mem_standard rfl hold rfl) howner)

/-- What is recomputed is due: the school loses a course or review of the user's. -/
theorem due_of_others (h : db.Sound) (a : Aggregate) {id : Datum} {old : Row}
    (hid : id.Denotes old.id) {own records : List Record}
    (hrecords : db.found a.dependents
      { conditions := [⟨"user_id", .eq, id⟩], projection := some ["school_id"] } = .ok records)
    {s : Int} (hs : s ∈ others own records) : dueForDeletion db "users" old.id a s := by
  obtain ⟨row, hrow, u, hcell, hu⟩ :=
    (mem_schoolIds_dependents h a hrecords).1 (List.mem_filter.1 hs).1
  exact ⟨row, hrow, .inr ⟨rfl, hu.unique hid ▸ hcell⟩⟩

/-- The identities of schools that are recomputed can be written in a condition. -/
theorem proper_of_others (h : db.Sound) (a : Aggregate) {id : Datum} {own records : List Record}
    (hfound : db.found a.dependents
      { conditions := [⟨"user_id", .eq, id⟩], projection := some ["school_id"] } = .ok records)
    {s : Int} (hs : s ∈ others own records) : (Cell.int s).Proper := by
  obtain ⟨row, hrow, _⟩ := (mem_schoolIds_dependents h a hfound).1 (List.mem_filter.1 hs).1
  obtain ⟨school, hschool, rfl⟩ := Aggregate.exists_school h hrow
  exact (h.isIdentity Kept.schools.mem_standard hschool).proper

/-- Recomputing the cost averages of some schools and the rating averages of others. -/
theorem ensures_recomputeBoth (h : db.Sound)
    {costs ratings : List Int} (hcosts : ∀ s ∈ costs, (Cell.int s).Proper)
    (hratings : ∀ s ∈ ratings, (Cell.int s).Proper) :
    Ensures around db (do
      for school in costs do
        Aggregate.cost.recompute (.int school) {}
      for school in ratings do
        Aggregate.rating.recompute (.int school) {}) fun result after => (∃ done, result = .ok done) ∧
      Recomputed around db after fun a s => (a = .cost ∧ s ∈ costs) ∨ (a = .rating ∧ s ∈ ratings) := by
  refine (Aggregate.ensures_recomputeAll h hcosts).bind ?_ ?_
  · rintro _ mid ⟨_, hmid⟩
    refine Ensures.bind (Aggregate.ensures_recomputeAll hmid.averaged.sound hratings) ?_ ?_
    · rintro _ after ⟨_, hafter⟩
      exact Ensures.pure ⟨⟨_, rfl⟩, hmid.trans hafter⟩
    · rintro failure after ⟨⟨_, hdone⟩, _⟩
      exact nomatch hdone
  · rintro failure after ⟨⟨_, hdone⟩, _⟩
    exact nomatch hdone

/-- Deleting a user, and recomputing the averages of the schools that were looked up before. -/
theorem achieves_removeUser (h : db.Sound) {id : Datum} {old : Row} (hold : old ∈ db.rows "users")
    (hid : id.Denotes old.id) {schools courses reviews : List Record}
    (hschools : db.found .schools
      { conditions := [⟨"user_id", .eq, id⟩], projection := some ["id"] } = .ok schools)
    (hcourses : db.found .courses
      { conditions := [⟨"user_id", .eq, id⟩], projection := some ["school_id"] } = .ok courses)
    (hreviews : db.found .reviews
      { conditions := [⟨"user_id", .eq, id⟩], projection := some ["school_id"] } = .ok reviews)
    (text : String) :
    Achieves around db (do
      let _ ← ({} : Store).delete .users id
      Service.info text
      for school in others schools courses do
        Aggregate.cost.recompute (.int school) {}
      for school in others schools reviews do
        Aggregate.rating.recompute (.int school) {}) fun _ after =>
          (Effect.remove .users old).Leaves around db after := by
  refine (achieves_delete h .users id).bind ?_
  rintro _ mid (⟨_, rfl, hnone⟩ | ⟨_, same, hsame, hid', hdeleted⟩)
  · exact absurd hid (hnone old hold)
  obtain rfl := h.eq_of_id Kept.users.mem_standard hsame hold (hid'.unique hid)
  refine Ensures.info_bind ?_
  refine (ensures_recomputeBoth (hdeleted.sound h)
    (fun s hs => proper_of_others h .cost hcourses hs)
    (fun s hs => proper_of_others h .rating hreviews hs)).weaken ?_
  rintro result after ⟨⟨done, rfl⟩, hafter⟩
  refine ⟨mid, .remove .users hold hdeleted, hafter.weaken ?_ ?_⟩
  · rintro a s (⟨rfl, hs⟩ | ⟨rfl, hs⟩)
    · exact due_of_others h .cost hid hcourses hs
    · exact due_of_others h .rating hid hreviews hs
  · intro school hschool a hdue
    cases a with
    | cost => exact .inl ⟨rfl, mem_others h .cost hold hid hdeleted hschools hcourses hschool hdue⟩
    | rating => exact .inr ⟨rfl, mem_others h .rating hold hid hdeleted hschools hreviews hschool hdue⟩

theorem finds_getAccount (h : db.Sound) (id : Datum) :
    Finds around db (Accounts.get id) fun record => ∃ row ∈ db.rows Layout.users.name,
      id.Denotes row.id ∧ record = row.record .users .users :=
  finds_record h .users id _

/-- Deleting a user takes out all that goes with the user. -/
theorem achieves_deleteAccount (h : db.Sound) (id : Datum) :
    Achieves around db (Accounts.delete id) fun _ after => ∃ old ∈ db.rows "users",
      id.Denotes old.id ∧ (Effect.remove .users old).Leaves around db after := by
  unfold Accounts.delete
  refine (finds_getAccount h id).bind ?_
  rintro _ ⟨old, hold, hid, _⟩
  refine (finds_of_eq (ensures_find _)).bind fun schools hschools => ?_
  refine (finds_of_eq (ensures_find _)).bind fun courses hcourses => ?_
  refine (finds_of_eq (ensures_find _)).bind fun reviews hreviews => ?_
  exact (achieves_removeUser h hold hid hschools hcourses hreviews _).weaken fun _ after hafter =>
    ⟨old, hold, hid, hafter⟩

/-! ## Logging in -/

/-- The account with an email address, letters in lower case, and a password. -/
structure HasCredentials (around : Surroundings) (email password : Wording) (user : Row) : Prop where
  email : ∃ address, email = .proper address ∧ user.cell "email" = .text (Text.lower address)
  password : ∃ kept, user.cell "password" = .text kept ∧
    Password.verify password kept around.iterations = .ok true

theorem finds_isPasswordOf (password : Wording) (user : Record) :
    Finds around db (Accounts.isPasswordOf password user) fun accepted => accepted = true →
      ∃ kept, Record.field user "password" = .text kept ∧
        Password.verify password kept around.iterations = .ok true := by
  unfold Accounts.isPasswordOf
  split
  next kept hkept =>
    refine finds_surroundings.bind fun around' (hsame : around' = around) => ?_
    subst hsame
    exact (finds_ofExcept _).weaken fun accepted hverify htrue => ⟨kept, hkept, htrue ▸ hverify⟩
  next => exact achieves_fail _

theorem text_of_toDatum {cell : Cell} {s : String} (h : cell.toDatum = .text s) : cell = .text s := by
  cases cell with
  | text t => exact congrArg Cell.text (Datum.text.inj h)
  | null => exact nomatch h
  | int i => exact nomatch h
  | real x => exact nomatch h
  | blob b => exact nomatch h

/-- The full record of the account that is looked up by an email address. -/
theorem finds_byEmail (h : db.Sound) (email : Wording) :
    Finds around db (({} : Store).findOne .users [⟨"email", .eq, .ofWording email.lower⟩] true)
      fun found => ∀ record, found = some record → ∃ user ∈ db.rows "users",
        (∃ address, email = .proper address ∧ user.cell "email" = .text (Text.lower address)) ∧
        ∀ f ∈ Collection.users.fieldNames,
          Record.field record f = shown .users f (user.read (fieldReference f)) := by
  have hfound := found_by_field h .users (by decide : "email" ∈ Collection.users.visibleFields)
    (.ofWording email.lower) none true bindWindow_one
  rintro state rfl
  rw [run_findOne, show (⟨"email", .eq, .ofWording email.lower⟩ : Condition) =
    byKey "email" (.ofWording email.lower) from rfl, hfound]
  cases email with
  | broken points => exact rfl
  | proper address =>
    refine ⟨rfl, fun record hrecord => ?_⟩
    obtain ⟨user, huser, rfl⟩ := List.mem_map.1 (List.mem_of_head? hrecord)
    obtain ⟨huser, hkeyed⟩ := List.mem_filter.1 (List.mem_of_mem_take huser)
    obtain ⟨hnodup, _, hdeclared⟩ := columns_spec .users none true
    exact ⟨user, huser, ⟨address, rfl, cell_of_keyed (by decide) (by decide) hkeyed⟩,
      fun f hf => field_recordOf .users hnodup hdeclared user hf⟩

/-- A record, if there is one, shows the identity of an account with the credentials. -/
def OfAccount (around : Surroundings) (db : Database) (email password : Wording)
    (found : Option Record) : Prop :=
  ∀ record, found = some record → ∃ user ∈ db.rows "users",
    HasCredentials around email password user ∧ Record.field record "id" = .int user.id

theorem OfAccount.none {email password : Wording} : OfAccount around db email password none :=
  fun _ hsome => nomatch hsome

/-- What is told of an account whose password was right, or of nobody. -/
theorem finds_accepted {email password : Wording} {accepted : Option Record}
    (h : OfAccount around db email password accepted) :
    Finds around db (match accepted with
      | none => do
        Service.info ("Failed login for " ++ email.lossy)
        return none
      | some user => return some (Record.remove user "password"))
      (OfAccount around db email password) := by
  cases accepted with
  | none => exact Achieves.read_bind (spares_info lasting_database _) fun _ => finds_pure .none
  | some record =>
    refine finds_pure fun told htold => ?_
    cases htold
    rw [Record.field_remove_of_ne record (by decide)]
    exact h record rfl

/-- Who logs in is an account that has the credentials. -/
theorem finds_authenticate (h : db.Sound) (email password : Wording) :
    Finds around db (Accounts.authenticate email password) (OfAccount around db email password) := by
  unfold Accounts.authenticate
  refine (finds_byEmail h email).bind fun found hfound => ?_
  cases found with
  | none =>
    refine (finds_pure rfl : Finds around db _ (· = _)).bind ?_
    rintro _ rfl
    exact finds_accepted .none
  | some record =>
    obtain ⟨user, huser, hemail, hfields⟩ := hfound record rfl
    refine (finds_isPasswordOf password record).bind fun accepted hpassword => ?_
    refine (finds_pure rfl : Finds around db _ (· = _)).bind ?_
    rintro _ rfl
    refine finds_accepted fun given hgiven => ?_
    split at hgiven
    next htrue =>
      cases hgiven
      obtain ⟨kept, hkept, hverify⟩ := hpassword htrue
      rw [hfields "password" (by decide)] at hkept
      exact ⟨user, huser, ⟨hemail, kept, text_of_toDatum hkept, hverify⟩,
        hfields "id" (by decide)⟩
    next => exact nomatch hgiven

end Service
end SchoolCatalog
