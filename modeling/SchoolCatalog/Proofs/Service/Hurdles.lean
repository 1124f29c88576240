import SchoolCatalog.Proofs.Access.Password
import SchoolCatalog.Proofs.Service.Answers
import SchoolCatalog.Proofs.Service.Locations

/-!
# What stands in the way of a write

Creating and updating records, for a caller that is there and a record that the caller may change, comes
out as three hurdles decide: a broken text among the values, a table without an identity for a new row,
and another row that has the name, the email address, or the school and author. The last is what a
conflict reports, whichever rule of the table is broken first.

Results:
1. `meets_addAccount`, `meets_register`, `meets_updateAccount`: accounts.
2. `meets_createSchool`, `meets_updateSchool`, `barred_createSchool`: schools.
3. `meets_createCourse`, `meets_createReview`, `meets_changeOf`: courses and reviews.
-/

namespace SchoolCatalog

open Store Store.Database

namespace Store

/-- The account that something stands for is there. -/
def Database.HasUser (db : Database) (id : Datum) : Prop :=
  ∃ user ∈ db.rows "users", id.Denotes user.id

end Store

namespace Service

variable {around : Surroundings} {db : Database} {c : Collection} {l : Layout} {values : Record}

/-! ## Values -/

theorem takes_given {fields : List (String × Option Datum)}
    (h : ∀ field ∈ fields, ∀ d, field.2 = some d → l.Takes field.1 d) :
    ∀ entry ∈ given fields, l.Takes entry.1 entry.2 :=
  fun entry hentry => h _ (mem_given hentry) entry.2 rfl

theorem garbled_given {fields : List (String × Option Datum)} :
    Garbled (given fields) ↔ ∃ field ∈ fields, ∃ points, field.2 = some (.broken points) := by
  constructor
  · rintro ⟨⟨_, _⟩, hentry, points, rfl⟩
    exact ⟨_, mem_given hentry, points, rfl⟩
  · rintro ⟨⟨_, _⟩, hfield, points, rfl⟩
    exact ⟨_, given_of_mem hfield, points, rfl⟩

theorem Meets.congr {α : Type} {x : Service α} {hurdles others : Hurdles} {refusal : Failure → Prop}
    (hx : Meets around db x hurdles refusal) (hgarbled : hurdles.garbled ↔ others.garbled)
    (hcontested : hurdles.contested ↔ others.contested) (hfull : hurdles.full ↔ others.full := by rfl) :
    Meets around db x others refusal :=
  Ensures.weaken hx fun _ _ hverdict => hverdict.congr hgarbled hfull hcontested

/-- An update of a row that is there answers with it as it is amended. -/
theorem achieves_amend (h : db.Sound) (k : Kept c l) (hordinary : around.Ordinary) {id : Datum}
    {old : Row} (hold : old ∈ db.rows l.name) (hid : id.Denotes old.id) (values : Record) :
    Achieves around db (({} : Store).update c id values) fun found after =>
      ∃ row, db.Amends c l values old row ∧ after = db.amended l row ∧
        found = some (row.record c l) := by
  refine (achieves_update h k id values).weaken ?_
  rintro found after (⟨_, _, hlost | hnone⟩ | ⟨same, row, hsame, hamends, rfl, rfl⟩)
  · exact nomatch hordinary.working.symm.trans hlost
  · exact absurd hid (hnone old hold)
  · obtain rfl := h.eq_of_id k.mem_standard hamends.mem hold (hsame.unique hid)
    exact ⟨row, hamends, rfl, rfl⟩

/-! ## Accounts -/

section Accounts

theorem gives_keepPassword (hordinary : around.Ordinary) (password : String) :
    Gives around db (Accounts.keepPassword password) (KeptAs around password) := by
  rintro state rfl
  obtain ⟨kept, hkept⟩ := Password.keep_of_iterations hordinary.iterations.1 hordinary.iterations.2
    password (around.salt (state.salts + 1))
  simp only [Accounts.keepPassword, run_bind, run_nextSalt, run_read, run_ofExcept]
  exact ⟨trivial, kept, hkept, _, hkept⟩

theorem proposal_newAccount (draft : AccountDraft) {role : String} (hrole : role ∈ allRoles)
    (kept : String) : Proposal .users .users (newAccount draft role kept) := by
  refine proposal_of_names ["name", "email", "password", "role"] (.refl _) (by decide)
    (by decide) ?_
  simp only [newAccount, List.forall_mem_cons]
  exact ⟨takes_text _ (by decide), takes_text _ (by decide), takes_text _ (by decide),
    takes_role hrole, List.forall_mem_nil _⟩

/-- Adding an account is contested if another one has the email address. -/
theorem meets_addAccount (h : db.Sound) (hordinary : around.Ordinary) (draft : AccountDraft)
    {role : String} (hrole : role ∈ allRoles) :
    Meets around db (Accounts.add draft role)
      ⟨Garbled draft.record, db.IsFull "users",
        ∃ user ∈ db.rows "users", user.cell "email" = .text (Text.lower draft.email)⟩
      (· = .conflict (.email (.text draft.email))) := by
  unfold Accounts.add
  refine Ensures.info_bind ((gives_keepPassword hordinary draft.password).bind fun kept _ => ?_)
  refine Meets.congr (Meets.wording (meets_insert h .users hordinary (proposal_newAccount draft hrole kept)
    (by decide : "created_at" ∉ ["name", "email", "password", "role"]) ?_ nofun ?_) fun _ _ =>
      Ensures.fail rfl) ?_ .rfl
  · exact (by decide : ∀ col ∈ Layout.users.columns,
      col.name ∉ ["name", "email", "password", "role"] → col.Admits col.default)
  · exact fun row hstores => clashes_of_text rfl (hstores.text (by simp [newAccount]) (by decide))
  · simp [Garbled, newAccount, AccountDraft.record]

theorem gives_present (h : db.Sound) :
    Gives around db (({} : Store).count .users []) (· = (db.rows "users").length) := by
  rintro state rfl
  have hrun := @run_present around state h
  exact ⟨by rw [hrun], _, by rw [hrun], rfl⟩

theorem meets_register (h : db.Sound) (hordinary : around.Ordinary) {draft : AccountDraft}
    (hrole : draft.role ∈ openRoles) :
    Meets around db (Accounts.register draft)
      ⟨Garbled draft.record, db.IsFull "users",
        ∃ user ∈ db.rows "users", user.cell "email" = .text (Text.lower draft.email)⟩
      (· = .conflict (.email (.text draft.email))) := by
  unfold Accounts.register
  refine (gives_present h).bind fun present _ => meets_addAccount h hordinary draft ?_
  split
  · decide
  · exact (by decide : openRoles ⊆ allRoles) hrole

theorem gives_changedAccount (hordinary : around.Ordinary) (change : AccountChange) :
    Gives around db (Accounts.changedValues change) (ChangedAccount around change) := by
  have hend (kept : Option String) (hkept : Option.Rel (KeptAs around) change.password kept) :
      Gives around db (do
        let kept := { change with email := change.email.map Text.lower, password := kept }
        return given kept.fields) (ChangedAccount around change) :=
    gives_pure ⟨kept, hkept, rfl⟩
  unfold Accounts.changedValues
  split
  next password hsome =>
    have hkept : Gives around db (some <$> Accounts.keepPassword password)
        (Option.Rel (KeptAs around) change.password) :=
      Gives.map ((gives_keepPassword hordinary password).weaken fun kept hkept => hsome ▸ .some hkept)
    exact hkept.bind hend
  next hnone =>
    have hkept : Gives around db (pure none) (Option.Rel (KeptAs around) change.password) :=
      gives_pure (by rw [hnone]; exact .none)
    exact hkept.bind hend

theorem proposal_changedAccount {change : AccountChange} {values : Record}
    (hvalues : ChangedAccount around change values)
    (hrole : ∀ role, change.role = some role → role ∈ allRoles) : Proposal .users .users values := by
  obtain ⟨kept, _, rfl⟩ := hvalues
  refine proposal_of_names ["name", "email", "role", "password"] (names_given _) (by decide)
    (by decide) (takes_given ?_)
  simp only [AccountChange.fields, List.forall_mem_cons, Option.map_eq_some_iff]
  refine ⟨?_, ?_, ?_, ?_, List.forall_mem_nil _⟩
  · rintro _ ⟨s, _, rfl⟩
    exact takes_text s (by decide)
  · rintro _ ⟨s, _, rfl⟩
    exact takes_text s (by decide)
  · rintro _ ⟨role, hsome, rfl⟩
    exact takes_role (hrole role hsome)
  · rintro _ ⟨s, _, rfl⟩
    exact takes_text s (by decide)

/-- The email address that a change writes. -/
theorem email_changedAccount {change : AccountChange} {values : Record}
    (hvalues : ChangedAccount around change values) : Record.field values "email" =
      .ofOption (change.email.map fun email => .text (Text.lower email)) := by
  obtain ⟨kept, _, rfl⟩ := hvalues
  obtain ⟨name, email, role, password⟩ := change
  cases name <;> cases email <;> cases role <;> cases kept <;> rfl

/-- Changing an account is contested if another one has the email address. -/
theorem meets_updateAccount (h : db.Sound) (hordinary : around.Ordinary) {id : Datum}
    {change : AccountChange} {old : Row} (hold : old ∈ db.rows "users") (hid : id.Denotes old.id)
    (hrole : ∀ role, change.role = some role → role ∈ allRoles) :
    Meets around db (Accounts.update id change)
      ⟨Garbled (given change.fields), False, ∃ email, change.email = some email ∧
        ∃ user ∈ db.rows "users", ¬ id.Denotes user.id ∧ user.cell "email" = .text (Text.lower email)⟩
      (· = .conflict (.email (.ofOption (change.email.map fun email => .text (Text.lower email))))) := by
  unfold Accounts.update
  refine (gives_changedAccount hordinary change).bind fun values hvalues => ?_
  rw [email_changedAccount hvalues]
  have hproposal := proposal_changedAccount hvalues hrole
  obtain ⟨kept, _, rfl⟩ := hvalues
  have hclear (email password : Option String) :
      ¬ Garbled (given { change with email, password }.fields) := by
    rw [garbled_given]
    simp [AccountChange.fields]
  refine Meets.bind (Meets.congr (Meets.wording (meets_update h .users hordinary hproposal (List.forall_mem_nil _) hold hid
    ?_) fun _ _ => Ensures.fail rfl) ?_ .rfl) ((achieves_amend h .users hordinary hold hid _).wording
      fun _ => achieves_fail _) ?_
  · intro row hwritten
    obtain ⟨col, hcol, hname, htext⟩ : ∃ col ∈ Layout.users.columns, col.name = "email" ∧
        col.affinity = .text := by
      decide
    have hcell : row.cell col.name = (change.email.map Text.lower).elim (old.cell col.name) .text :=
      (hwritten col hcol).text_cell htext (by simp [hname, AccountChange.fields])
        (by simp [hname, AccountChange.fields])
    rw [hname] at hcell
    rw [clashes_of_change h Kept.users.mem_standard hold hid rfl hcell]
    simp only [Option.map_eq_some_iff, exists_exists_and_eq_and]
    rfl
  · exact iff_of_false (hclear _ _) (hclear _ _)
  · rintro _ mid ⟨row, _, _, rfl⟩
    exact Ensures.pure ⟨_, rfl⟩

end Accounts

/-! ## Schools -/

section Schools

/-- Without a geocoder a school has no location. -/
theorem gives_locationOf (hordinary : around.Ordinary) (address : Wording) :
    Gives around db (Schools.locationOf address) (· = []) := by
  unfold Schools.locationOf
  refine gives_surroundings.bind ?_
  rintro _ rfl
  rw [hordinary.unlocating]
  exact gives_pure rfl

/-- Whether a caller owns a school. -/
theorem gives_ownSchool (h : db.Sound) {owner : Datum} (howner : db.HasUser owner) :
    Gives around db (({} : Store).findOne .schools [⟨"user_id", .eq, owner⟩] false) fun found =>
      found.isSome = true ↔ ¬ OwnsNone db owner := by
  obtain ⟨_, _, v, hv, _⟩ := howner
  have hfound := found_by_key h .schools isKey_owner owner none bindWindow_one
  rw [hv] at hfound
  rintro state rfl
  rw [run_findOne, show state.database.found .schools
    { conditions := [⟨"user_id", .eq, owner⟩], limit := some 1, includeHidden := false } = _ from hfound]
  exact ⟨rfl, _, rfl, isSome_found_iff h hfound⟩

theorem proposal_newSchool (draft : SchoolDraft) {caller : Caller} {u : Int}
    (hcaller : caller.id.Denotes u) :
    Proposal .schools .schools (draft.record ++ [("user_id", caller.id)]) := by
  refine proposal_of_names ["name", "description", "website", "phone", "email", "address", "user_id"]
    (.refl _) (by decide) (by decide) ?_
  have hoptional (s : Option String) : Legible (.ofOption (s.map .text)) := by
    cases s <;> exact .inl ⟨_, rfl⟩
  simp only [SchoolDraft.record, List.cons_append, List.nil_append, List.forall_mem_cons]
  exact ⟨takes_text _ (by decide), takes_text _ (by decide), takes_optional (hoptional _) (by decide),
    takes_optional (hoptional _) (by decide), takes_optional (hoptional _) (by decide),
    takes_wording _ (by decide), takes_link hcaller (by decide), List.forall_mem_nil _⟩

/-- Publishing is contested if another school has the name. -/
theorem meets_publish (h : db.Sound) (hordinary : around.Ordinary) (draft : SchoolDraft)
    {caller : Caller} (hcaller : db.HasUser caller.id) :
    Meets around db (publishAllowed draft caller)
      ⟨Garbled draft.record, db.IsFull "schools",
        ∃ school ∈ db.rows "schools", school.cell "name" = .text draft.name⟩
      (· = .conflict (.schoolName (.text draft.name))) := by
  obtain ⟨user, huser, hu⟩ := hcaller
  refine (gives_locationOf hordinary draft.address).bind ?_
  rintro _ rfl
  have heq := (newSchool_eq draft caller (.inl rfl)).1
  rw [List.append_nil] at heq
  have hinsert := meets_insert h .schools hordinary (proposal_newSchool draft hu)
    (by decide : "created_at" ∉
      ["name", "description", "website", "phone", "email", "address", "user_id"])
    (by decide : ∀ col ∈ Layout.schools.columns, col.name ∉
      ["name", "description", "website", "phone", "email", "address", "user_id"] →
        col.Admits col.default)
    (List.forall_mem_singleton.2 ⟨user, huser, caller.id, by simp, hu⟩)
    (fun row hstores => clashes_of_text (s := draft.name) rfl
      (hstores.text (by simp [SchoolDraft.record]) (by decide)))
  rw [← heq] at hinsert
  refine Meets.bind (Meets.congr (Meets.wording hinsert fun _ _ => Ensures.fail rfl) ?_ .rfl)
    ((achieves_insert h .schools _).wording fun _ => achieves_fail _)
    fun school _ _ => succeeds_return _ school
  rw [heq]
  exact garbled_append_clear (clear_links (List.forall_mem_singleton.2 ⟨_, hu⟩))

theorem meets_createSchool (h : db.Sound) (hordinary : around.Ordinary) (draft : SchoolDraft)
    {caller : Caller} (hcaller : db.HasUser caller.id)
    (hallowed : caller.isAdmin = true ∨ OwnsNone db caller.id) :
    Meets around db (Schools.create draft caller)
      ⟨Garbled draft.record, db.IsFull "schools",
        ∃ school ∈ db.rows "schools", school.cell "name" = .text draft.name⟩
      (· = .conflict (.schoolName (.text draft.name))) := by
  rw [create_eq]
  split
  next => exact meets_publish h hordinary draft hcaller
  next hpublisher =>
    refine (gives_ownSchool h hcaller).bind fun found hfound => ?_
    rw [if_neg (fun hsome => hfound.1 hsome (hallowed.resolve_left hpublisher))]
    exact meets_publish h hordinary draft hcaller

/-- A publisher's second school is refused. -/
theorem barred_createSchool (h : db.Sound) (draft : SchoolDraft) {caller : Caller}
    (hcaller : db.HasUser caller.id) (hpublisher : caller.isAdmin = false)
    (hbarred : ¬ OwnsNone db caller.id) :
    Ensures around db (Schools.create draft caller) fun result _ =>
      result = .error (.refused (.alreadyPublished caller.id)) := by
  rw [create_eq, hpublisher, if_neg Bool.false_ne_true]
  refine (gives_ownSchool h hcaller).bind fun found hfound => ?_
  rw [if_pos (hfound.2 hbarred)]
  exact Ensures.fail rfl

/-- Without a geocoder a school that moves loses its location. -/
theorem gives_changedSchool (hordinary : around.Ordinary) (change : SchoolChange) (school : Record) :
    Gives around db (Schools.changedValues change school) fun values =>
      ∃ location, (location = [] ∨ location = Geo.noLocation) ∧ values = change.record ++ location := by
  have hstays : Gives around db (pure change.record) fun values =>
      ∃ location, (location = [] ∨ location = Geo.noLocation) ∧ values = change.record ++ location :=
    gives_pure ⟨[], .inl rfl, (List.append_nil _).symm⟩
  unfold Schools.changedValues
  split
  next => exact hstays
  next address _ =>
    split
    next => exact hstays
    next =>
      refine (gives_locationOf hordinary address).bind ?_
      rintro _ rfl
      exact gives_pure ⟨Geo.noLocation, .inr rfl, (moved_eq change rfl).1⟩

theorem proposal_changedSchool (change : SchoolChange) {location : Record}
    (hlocation : location = [] ∨ location = Geo.noLocation) :
    Proposal .schools .schools (change.record ++ location) := by
  have hnames : (Record.names (change.record ++ location)).Sublist
      (["name", "description", "website", "phone", "email", "address"] ++ Geo.locationFields) := by
    rw [Record.names, List.map_append]
    refine (names_change change).append ?_
    rcases hlocation with rfl | rfl
    · exact List.nil_sublist _
    · exact .refl _
  refine proposal_of_names _ hnames (by decide) (by decide) fun entry hentry => ?_
  rcases List.mem_append.1 hentry with hentry | hentry
  · refine takes_given ?_ entry hentry
    simp only [SchoolChange.fields, List.forall_mem_cons, Option.map_eq_some_iff]
    refine ⟨?_, ?_, ?_, ?_, ?_, ?_, List.forall_mem_nil _⟩
    all_goals
      rintro _ ⟨given, _, rfl⟩
      first | exact takes_text given (by decide) | exact takes_wording given (by decide)
  · rcases hlocation with rfl | rfl
    · cases hentry
    · obtain ⟨name, hname, rfl⟩ := List.mem_map.1 hentry
      refine takes_optional (.inl ⟨_, rfl⟩) ?_
      exact (by decide : ∀ name ∈ Geo.locationFields, ∀ col ∈ Layout.schools.columns,
        col.name = name → col.required = false ∧ col.check.isNone = true) name hname

/-- Changing a school is contested if another one has the name. -/
theorem meets_updateSchool (h : db.Sound) (hordinary : around.Ordinary) {id : Datum}
    (change : SchoolChange) {caller : Caller} {old : Row}
    (hold : Allows db .schools .schools caller id old) :
    Meets around db (Schools.update id change caller)
      ⟨Garbled change.record, False, ∃ name, change.name = some name ∧
        ∃ school ∈ db.rows "schools", ¬ id.Denotes school.id ∧ school.cell "name" = .text name⟩
      (· = .conflict (.schoolName (.ofOption (change.name.map .text)))) := by
  unfold Schools.update
  refine (gives_find h .schools hold.mem hold.denotes _).bind ?_
  rintro _ rfl
  refine (gives_ensureOwner hold.mayChange _).bind fun _ _ => ?_
  refine (gives_changedSchool hordinary change _).bind ?_
  rintro _ ⟨location, hlocation, rfl⟩
  have hunnamed : ∀ d, ("name", d) ∈ change.record ++ location ↔ ("name", d) ∈ change.record := by
    intro d
    refine List.mem_append.trans (or_iff_left ?_)
    rcases hlocation with rfl | rfl <;> simp [Geo.noLocation, Geo.locationFields]
  refine Meets.bind (Meets.congr (Meets.wording (meets_update h .schools hordinary
    (proposal_changedSchool change hlocation) ?_ hold.mem hold.denotes ?_) fun _ _ => Ensures.fail rfl)
      ?_ .rfl) ((achieves_amend h .schools hordinary hold.mem hold.denotes _).wording
        fun _ => achieves_fail _) ?_
  · refine List.forall_mem_singleton.2 fun hgiven => ?_
    obtain ⟨⟨_, d⟩, hd, rfl⟩ := List.mem_map.1 hgiven
    rcases List.mem_append.1 hd with hd | hd
    · have hname : "user_id" ∈ change.fields.map (·.1) := List.mem_map_of_mem (mem_given hd)
      simp [SchoolChange.fields] at hname
    · rcases hlocation with rfl | rfl
      · cases hd
      · simp [Geo.noLocation, Geo.locationFields] at hd
  · intro row hwritten
    obtain ⟨col, hcol, hname, htext⟩ : ∃ col ∈ Layout.schools.columns, col.name = "name" ∧
        col.affinity = .text := by
      decide
    have hown := (hwritten col hcol).congr (hname ▸ hunnamed)
    have hcell : row.cell col.name = change.name.elim (old.cell col.name) .text :=
      hown.text_cell htext (by simp [hname, SchoolChange.fields]) (by simp [hname, SchoolChange.fields])
    rw [hname] at hcell
    exact clashes_of_change h Kept.schools.mem_standard hold.mem hold.denotes rfl hcell
  · refine garbled_append_clear ?_
    rcases hlocation with rfl | rfl <;> simp [Garbled, Geo.noLocation, Geo.locationFields]
  · rintro _ mid ⟨row, _, _, rfl⟩
    exact succeeds_return _ _

end Schools

/-! ## Courses and reviews -/

section Dependents

variable {a : Aggregate} {record : Record} {school id : Datum} {caller : Caller} {s u : Int}
  {refusal other : Failure → Prop} {garbled full : Prop}

/-- Where nothing is contested no rule is broken. -/
theorem Meets.uncontested {α : Type} {x : Service α}
    (hx : Meets around db x ⟨garbled, full, False⟩ refusal) :
    Meets around db x ⟨garbled, full, False⟩ other := by
  refine Ensures.weaken hx fun result _ hverdict => ?_
  cases hverdict with
  | garbled hgarbled => exact .garbled hgarbled
  | full hclear hfull => exact .full hclear hfull
  | contested _ _ hcontested _ => exact hcontested.elim
  | free hclear hroom hfree => exact .free hclear hroom hfree

/-- The values of a new course or review are its own, its school and its owner. -/
theorem addressed_eq (hnodup : (Record.names record ++ ["school_id", "user_id"]).Nodup) (school : Datum)
    (caller : Caller) :
    addressed record school caller = record ++ [("school_id", school), ("user_id", caller.id)] :=
  Record.putAll_of_nodup (by rwa [Record.names, List.map_append])

/-- What an insertion of a course or review asks of the names of its own values. -/
structure Addressable (a : Aggregate) (names : List String) : Prop where
  declared : ∀ name ∈ names ++ ["school_id", "user_id"], name ∈ a.dependents.fieldNames ∧ name ≠ "id"
  nodup : (names ++ ["school_id", "user_id"]).Nodup
  unstamped : "created_at" ∉ names ++ ["school_id", "user_id"]
  complete : ∀ col ∈ a.layout.columns, col.name ∉ names ++ ["school_id", "user_id"] →
    col.Admits col.default

theorem addressable_course (draft : CourseDraft) : Addressable .cost (Record.names draft.record) := by
  show Addressable .cost ["title", "description", "weeks", "tuition", "scholarship_available"]
  constructor <;> decide

theorem addressable_review (draft : ReviewDraft) : Addressable .rating (Record.names draft.record) := by
  show Addressable .rating ["title", "text", "rating"]
  constructor <;> decide

/-- How inserting a course or review comes out, for a school and an owner that are there. -/
theorem meets_insertTo (h : db.Sound) (hordinary : around.Ordinary) (a : Aggregate)
    (hrecord : Addressable a (Record.names record))
    (htaken : ∀ entry ∈ record, a.layout.Takes entry.1 entry.2) {parent user : Row}
    (hparent : parent ∈ db.rows "schools") (hs : school.Denotes parent.id)
    (huser : user ∈ db.rows "users") (hu : caller.id.Denotes user.id) {contested : Prop}
    (hcontested : ∀ row : Row,
      row.Stores a.layout (record ++ [("school_id", school), ("user_id", caller.id)]) →
        (a.layout.Clashes row (db.rows a.layout.name) ↔ contested)) :
    Meets around db (({} : Store).insert a.dependents (addressed record school caller))
      ⟨Garbled record, db.IsFull a.layout.name, contested⟩ Failure.IsViolation := by
  have hnames : Record.names (record ++ [("school_id", school), ("user_id", caller.id)]) =
      Record.names record ++ ["school_id", "user_id"] := List.map_append
  have hlinks : ∀ name ∈ ["school_id", "user_id"], ∀ col ∈ a.layout.columns, col.name = name →
      col.check.isNone = true := by
    cases a <;> decide
  have hproposal : Proposal a.dependents a.layout
      (record ++ [("school_id", school), ("user_id", caller.id)]) := by
    refine proposal_of_names _ (hnames ▸ .refl _) hrecord.declared hrecord.nodup ?_
    refine List.forall_mem_append.2 ⟨htaken, ?_⟩
    simp only [List.forall_mem_cons]
    exact ⟨takes_link hs (hlinks _ (by decide)), takes_link hu (hlinks _ (by decide)), nofun⟩
  have hprovides : db.Provides a.layout (record ++ [("school_id", school), ("user_id", caller.id)]) := by
    rw [Provides, a.parents_dependents]
    simp only [List.forall_mem_cons]
    exact ⟨⟨parent, hparent, school, by simp, hs⟩, ⟨user, huser, caller.id, by simp, hu⟩, nofun⟩
  rw [addressed_eq hrecord.nodup]
  refine (meets_insert h a.kept_dependents hordinary hproposal (hnames ▸ hrecord.unstamped)
    (hnames ▸ hrecord.complete) hprovides hcontested).congr
      (garbled_append_clear (clear_links ?_)) .rfl
  simp only [List.forall_mem_cons]
  exact ⟨⟨_, hs⟩, ⟨_, hu⟩, nofun⟩

/-- Adding a course or review, and recomputing. -/
theorem meets_addTo (a : Aggregate) (values : Record) (hs : school.Denotes s)
    {inserted : Service Record} {hurdles : Hurdles} (hinserted : Meets around db inserted hurdles refusal)
    (hdone : Achieves around db inserted fun record after =>
      ∃ row, db.Adds a.dependents a.layout values row ∧ after = db.grown a.layout row ∧
        record = row.record a.dependents a.layout) (text : Record → String) :
    Meets around db (addTo a school inserted text) hurdles refusal := by
  refine hinserted.bind hdone ?_
  rintro record mid ⟨row, hadds, rfl, _⟩
  exact succeeds_finish hadds.sound hs _ _

/-- Changing a course or review that is there is never contested, as its school and owner stay. -/
theorem meets_changeOf (h : db.Sound) (hordinary : around.Ordinary) {old : Row}
    (hold : Allows db a.dependents a.layout caller id old)
    (hvalues : Proposal a.dependents a.layout values)
    (hstays : "school_id" ∉ Record.names values ∧ "user_id" ∉ Record.names values) (missing : Failure)
    (text : String) :
    Meets around db (changeOf a id values missing text) ⟨Garbled values, False, False⟩ refusal := by
  have k := a.kept_dependents
  have hlinks : ∀ columns ∈ a.layout.unique, ∀ name ∈ columns,
      name = "school_id" ∨ name = "user_id" := by
    cases a <;> decide
  have hunlinked : ∀ link ∈ a.layout.parents, link.1 ∉ Record.names values := by
    rw [a.parents_dependents]
    simpa using hstays
  refine Meets.uncontested (Meets.bind (meets_update h k hordinary hvalues hunlinked hold.mem
    hold.denotes ?_) (achieves_amend h k hordinary hold.mem hold.denotes values) ?_)
  · intro row hwritten
    refine iff_of_false (not_clashes_of_kept h k.mem_standard hold.mem ?_) not_false
    intro columns hcolumns name hname
    obtain ⟨col, hcol, rfl⟩ := List.mem_map.1 (unique_declared k.mem_standard hcolumns hname)
    rcases hwritten col hcol with ⟨d, _, hd, _⟩ | ⟨_, hsame⟩
    · have hgiven : col.name ∈ Record.names values := List.mem_map_of_mem hd
      rcases hlinks columns hcolumns _ hname with hlink | hlink
      · exact absurd (hlink ▸ hgiven) hstays.1
      · exact absurd (hlink ▸ hgiven) hstays.2
    · exact hsame
  · rintro _ mid ⟨row, hamends, rfl, rfl⟩
    have hmem := mem_amended_self h k.mem_standard hamends.mem hamends.same
    obtain ⟨s, _, hfield, hs⟩ := key_of_record hamends.sound k a.isKey_school hmem
    exact succeeds_finish hamends.sound (hfield ▸ hs) _ _

theorem meets_createCourse (h : db.Sound) (hordinary : around.Ordinary) {draft : CourseDraft}
    (htuition : draft.tuition.isNaN = false) {owner : Row}
    (howner : Allows db .schools .schools caller school owner) (hcaller : db.HasUser caller.id) :
    Meets around db (Courses.create school draft caller)
      ⟨Garbled draft.record, db.IsFull "courses", False⟩ refusal := by
  obtain ⟨user, huser, hu⟩ := hcaller
  have htaken : ∀ entry ∈ draft.record, Layout.courses.Takes entry.1 entry.2 := by
    simp only [CourseDraft.record, List.forall_mem_cons]
    exact ⟨takes_text _ (by decide), takes_text _ (by decide), takes_text _ (by decide),
      takes_real htuition (by decide), takes_flag _ (by decide), List.forall_mem_nil _⟩
  have hfree (row : Row) : Layout.courses.Clashes row (db.rows "courses") ↔ False := by
    refine iff_of_false ?_ not_false
    rintro ⟨_, hcolumns, _⟩
    cases hcolumns
  unfold Courses.create
  refine (gives_record h .schools howner.mem howner.denotes none).bind ?_
  rintro _ rfl
  refine (gives_ensureOwner howner.mayChange _).bind fun _ _ => ?_
  have hinserted := meets_insertTo h hordinary .cost (addressable_course draft) htaken howner.mem
    howner.denotes huser hu fun row _ => hfree row
  exact meets_addTo .cost _ howner.denotes hinserted.uncontested (achieves_insert h .courses _) _

theorem meets_updateCourse (h : db.Sound) (hordinary : around.Ordinary) {change : CourseChange}
    (htuition : ∀ tuition, change.tuition = some tuition → tuition.isNaN = false) {old : Row}
    (hold : Allows db .courses .courses caller id old) :
    Meets around db (Courses.update id change caller) ⟨Garbled change.record, False, False⟩ refusal := by
  have hnames : (Record.names change.record).Sublist
      ["title", "description", "weeks", "tuition", "scholarship_available"] := names_given change.fields
  have htaken : ∀ entry ∈ change.record, Layout.courses.Takes entry.1 entry.2 := by
    refine takes_given ?_
    simp only [CourseChange.fields, List.forall_mem_cons, Option.map_eq_some_iff]
    refine ⟨?_, ?_, ?_, ?_, ?_, List.forall_mem_nil _⟩
    all_goals rintro _ ⟨given, hsome, rfl⟩
    · exact takes_text given (by decide)
    · exact takes_text given (by decide)
    · exact takes_text given (by decide)
    · exact takes_real (htuition given hsome) (by decide)
    · exact takes_flag given (by decide)
  unfold Courses.update
  refine (gives_find h .courses hold.mem hold.denotes _).bind ?_
  rintro _ rfl
  refine (gives_ensureOwner hold.mayChange _).bind fun _ _ => ?_
  refine meets_changeOf (a := .cost) h hordinary hold
    (proposal_of_names _ hnames (by decide) (by decide) htaken) ⟨?_, ?_⟩ _ _
  · exact fun hgiven => absurd (hnames.subset hgiven) (by decide)
  · exact fun hgiven => absurd (hnames.subset hgiven) (by decide)

/-- Reviewing a school is contested if the caller has reviewed it. -/
theorem meets_createReview (h : db.Sound) (hordinary : around.Ordinary) {draft : ReviewDraft}
    (hrating : 1 ≤ draft.rating ∧ draft.rating ≤ 10) {reviewed : Row}
    (hreviewed : reviewed ∈ db.rows "schools") (hs : school.Denotes reviewed.id)
    (hcaller : db.HasUser caller.id) :
    Meets around db (Reviews.create school draft caller)
      ⟨Garbled draft.record, db.IsFull "reviews", ∃ review ∈ db.rows "reviews",
        (∃ s, review.cell "school_id" = .int s ∧ school.Denotes s) ∧
          ∃ u, review.cell "user_id" = .int u ∧ caller.id.Denotes u⟩
      (· = .conflict (.review caller.id school)) := by
  obtain ⟨user, huser, hu⟩ := hcaller
  have htaken : ∀ entry ∈ draft.record, Layout.reviews.Takes entry.1 entry.2 := by
    simp only [ReviewDraft.record, List.forall_mem_cons]
    exact ⟨takes_text _ (by decide), takes_wording _ (by decide), takes_rating hrating.1 hrating.2,
      List.forall_mem_nil _⟩
  have hlinked : ∀ other ∈ db.rows "reviews", (∃ n, other.cell "school_id" = .int n) ∧
      ∃ n, other.cell "user_id" = .int n := by
    intro other hother
    have hnamed := h.named .reviews Kept.reviews.mem_standard
    obtain ⟨p, _, hp⟩ := hnamed ("school_id", "schools") (by decide) other hother
    obtain ⟨q, _, hq⟩ := hnamed ("user_id", "users") (by decide) other hother
    exact ⟨⟨p.id, hp⟩, q.id, hq⟩
  have hdenoted {d : Datum} {cell : Cell} {i : Int} (hi : d.Denotes i) :
      cell = .int i ↔ ∃ n, cell = .int n ∧ d.Denotes n :=
    ⟨fun hcell => ⟨i, hcell, hi⟩, by rintro ⟨n, hcell, hn⟩; exact hn.unique hi ▸ hcell⟩
  unfold Reviews.create
  refine (gives_record h .schools hreviewed hs (some ["id"])).bind ?_
  rintro _ rfl
  refine meets_addTo .rating (addressed draft.record school caller) hs (Meets.wording
    (meets_insertTo h hordinary .rating (addressable_review draft) htaken hreviewed hs huser hu ?_)
    fun rule _ => Ensures.info_bind (Ensures.fail rfl)) ?_ _
  · intro row hstores
    have k := Kept.reviews.mem_standard
    refine (clashes_of_links rfl
      (link_cell k (by decide : ("school_id", "schools") ∈ _) hstores (by simp) hs)
      (link_cell k (by decide : ("user_id", "users") ∈ _) hstores (by simp) hu) hlinked).trans ?_
    exact exists_congr fun review => and_congr_right fun _ => and_congr (hdenoted hs) (hdenoted hu)
  · exact (achieves_insert h .reviews _).wording fun rule =>
      Achieves.read_bind (spares_info lasting_database _) fun _ => achieves_fail _

theorem meets_updateReview (h : db.Sound) (hordinary : around.Ordinary) {change : ReviewChange}
    (hrating : ∀ rating, change.rating = some rating → 1 ≤ rating ∧ rating ≤ 10) {old : Row}
    (hold : Allows db .reviews .reviews caller id old) :
    Meets around db (Reviews.update id change caller) ⟨Garbled change.record, False, False⟩ refusal := by
  have hnames : (Record.names change.record).Sublist ["title", "text", "rating"] :=
    names_given change.fields
  have htaken : ∀ entry ∈ change.record, Layout.reviews.Takes entry.1 entry.2 := by
    refine takes_given ?_
    simp only [ReviewChange.fields, List.forall_mem_cons, Option.map_eq_some_iff]
    refine ⟨?_, ?_, ?_, List.forall_mem_nil _⟩
    all_goals rintro _ ⟨given, hsome, rfl⟩
    · exact takes_text given (by decide)
    · exact takes_wording given (by decide)
    · exact takes_rating (hrating given hsome).1 (hrating given hsome).2
  unfold Reviews.update
  refine (gives_find h .reviews hold.mem hold.denotes _).bind ?_
  rintro _ rfl
  refine (gives_ensureOwner hold.mayChange _).bind fun _ _ => ?_
  refine meets_changeOf (a := .rating) h hordinary hold
    (proposal_of_names _ hnames (by decide) (by decide) htaken) ⟨?_, ?_⟩ _ _
  · exact fun hgiven => absurd (hnames.subset hgiven) (by decide)
  · exact fun hgiven => absurd (hnames.subset hgiven) (by decide)

end Dependents

end Service
end SchoolCatalog
