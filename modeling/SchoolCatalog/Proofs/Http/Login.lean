import SchoolCatalog.Proofs.Access.Password
import SchoolCatalog.Proofs.Http.Owners
import SchoolCatalog.Proofs.Store.Refusing

/-!
# Logging in after a run of requests

An account is created with an email address and a password, and each change of it may give it others.
Whatever else the requests of a run do, as long as the account stays whoever gives the address and the
password that it was given last, the address in any case of letters, is told its current record.

Results:
* `run_authenticate`: who has the credentials of an account is told its record;
* `Request.Creates.accepts`, `Request.Changes.accepts`, `accepts_of_kept`: what an account accepts after
  a request;
* `authenticate_of_lastGiven`: logging in after a run of requests.
-/

namespace SchoolCatalog

open Store Store.Database

namespace Service

variable {around : Surroundings} {state : State}

/-! ## Who is told the record -/

/-- A row that holds a text is found by it. -/
theorem keyed_of_cell {l : Layout} {row : Row} {f s : String} (hf : f ≠ "id")
    (haffinity : l.affinity (fieldReference f) = .text) (hcell : row.cell f = .text s) :
    keyed l f (.text s) row = true := by
  have hread : row.read (fieldReference f) = .text s := by
    rw [fieldReference, if_neg hf]
    exact hcell
  have hself := Cell.compare_self (x := .text s) trivial
  rw [keyed, Test.holds, order?, hread, haffinity]
  simpa [Cell.isNull, Relation.holds, Affinity.adapt, Affinity.toText] using hself

/-- No other account has the email address of an account. -/
theorem eq_of_email {db : Database} (h : db.Sound) {user other : Row} (huser : user ∈ db.rows "users")
    (hother : other ∈ db.rows "users") {address : String} (hemail : user.cell "email" = .text address)
    (hsame : other.cell "email" = .text address) : other = user := by
  refine h.eq_of_unique Kept.users.mem_standard (by decide : ["email"] ∈ _) huser hother ?_
  exact List.forall_mem_singleton.2 (hsame.trans hemail.symm)

/-- All fields of an account. -/
def fullRecord (user : Row) : Record :=
  recordOf .users (Layout.users.shown (columns .users none true)) user

/-- An account is found by its email address. -/
theorem found_email {db : Database} (h : db.Sound) {user : Row} (huser : user ∈ db.rows "users")
    {address : String} (hemail : user.cell "email" = .text address) :
    (db.found .users
      { conditions := [byKey "email" (.text address)], limit := some 1, includeHidden := true }).map
        List.head? = .ok (some (fullRecord user)) := by
  have hfind : (db.rows "users").find? (keyed .users "email" (.text address)) = some user :=
    find?_eq_some_of_unique huser (keyed_of_cell (by decide) (by decide) hemail)
      fun other hother hkeyed => eq_of_email h huser hother hemail
        (cell_of_keyed (by decide) (by decide) hkeyed)
  rw [found_by_field h .users (by decide : "email" ∈ Collection.users.visibleFields) _ none true
    bindWindow_one]
  show Except.ok (List.head? (List.map _ (List.take 1 (List.drop 0 _)))) = _
  rw [List.drop_zero, List.head?_map, List.head?_take, if_neg (by decide), List.head?_filter]
  show Except.ok (Option.map _ ((db.rows "users").find? _)) = _
  rw [hfind]
  rfl

theorem remove_password (user : Row) :
    Record.remove (fullRecord user) "password" = user.record .users .users := rfl

theorem password_fullRecord (user : Row) {kept : String} (hkept : user.cell "password" = .text kept) :
    Record.field (fullRecord user) "password" = .text kept := by
  obtain ⟨hnodup, _, hdeclared⟩ := columns_spec .users none true
  rw [fullRecord, field_recordOf .users hnodup hdeclared user (by decide)]
  exact congrArg Cell.toDatum hkept

/-- Who has the credentials of an account is told its record, without the password. -/
theorem run_authenticate (h : state.database.Sound) {user : Row}
    (huser : user ∈ state.database.rows "users") {address kept : String} {email password : Wording}
    (hlower : email.lower = .proper address) (hemail : user.cell "email" = .text address)
    (hkept : user.cell "password" = .text kept)
    (hverify : Password.verify password kept around.iterations = .ok true) :
    (run (Accounts.authenticate email password) around state).1 =
      .ok (some (user.record .users .users)) := by
  have haccepted : run (Accounts.isPasswordOf password (fullRecord user)) around state =
      (.ok true, state) := by
    unfold Accounts.isPasswordOf
    rw [password_fullRecord user hkept]
    dsimp only
    rw [run_bind, run_read]
    dsimp only
    rw [run_ofExcept, hverify]
  unfold Accounts.authenticate
  rw [hlower, run_bind, run_findOne,
    show (⟨"email", .eq, .ofWording (.proper address)⟩ : Condition) = byKey "email" (.text address) from
      rfl, found_email h huser hemail]
  dsimp only
  rw [run_bind, haccepted]
  dsimp only
  rw [← remove_password user]
  rfl

/-- Whether a password is kept as something is a matter of how often digests are iterated. -/
theorem KeptAs.of_iterations {other : Surroundings} {password kept : String}
    (h : KeptAs around password kept) (hsame : other.iterations = around.iterations) :
    KeptAs other password kept := by
  obtain ⟨salt, hkeep⟩ := h
  exact ⟨salt, hsame ▸ hkeep⟩

end Service

/-! ## What an account accepts -/

namespace Store.Database

open Service

variable {around : Surroundings} {db : Database} {u : Int} {email password : String}

/-- The account `u` is there, with an email address and a password as they are kept. -/
def Accepts (around : Surroundings) (db : Database) (u : Int) (email password : String) : Prop :=
  ∃ user ∈ db.rows "users", user.id = u ∧ user.cell "email" = .text (Text.lower email) ∧
    ∃ kept, user.cell "password" = .text kept ∧ KeptAs around password kept

theorem Accepts.of_iterations {other : Surroundings} (h : db.Accepts around u email password)
    (hsame : other.iterations = around.iterations) : db.Accepts other u email password := by
  obtain ⟨user, huser, hid, hemail, kept, hcell, hkept⟩ := h
  exact ⟨user, huser, hid, hemail, kept, hcell, hkept.of_iterations hsame⟩

/-- An account that is added accepts what it is created with. -/
theorem Adds.accepts (h : db.Sound) {draft : AccountDraft} {role kept : String} {row : Row}
    (hkept : KeptAs around draft.password kept)
    (hadds : db.Adds .users .users (newAccount draft role kept) row) :
    (db.grown .users row).Accepts around row.id draft.email draft.password := by
  have hpassword : row.cell "password" = .text kept :=
    text_of_added hadds (by decide) (by decide) (by simp [newAccount]) (by simp [newAccount])
  exact ⟨row, mem_grown_self h Kept.users.mem_standard row, rfl, email_of_added hadds, kept, hpassword,
    hkept⟩

/-- A text of an account is what the change gives for it, or what it was before. -/
theorem Amends.text_cell {fields : List (String × Option Datum)} {old row : Row}
    (hamends : db.Amends .users .users (given fields) old row)
    (hcolumns : ForColumns .users (given fields)) (name : String) {value : Option String}
    (hcolumn : ∃ col ∈ Layout.users.columns, col.name = name ∧ col.affinity = .text)
    (hgiven : (name, value.map Datum.text) ∈ fields)
    (honly : ∀ d, (name, d) ∈ fields → d = value.map Datum.text) :
    row.cell name = value.elim (old.cell name) .text := by
  obtain ⟨col, hcol, rfl, htext⟩ := hcolumn
  have hwritten := hamends.written col hcol
  rw [writable_eq hcolumns] at hwritten
  exact hwritten.text_cell htext hgiven honly

/-- An account that is changed accepts what it is given, and else what it accepted before. -/
theorem Amends.accepts (h : db.Sound) {change : AccountChange} {values : Record} {old row : Row}
    (hvalues : ChangedAccount around change values)
    (hamends : db.Amends .users .users values old row)
    (haccepts : db.Accepts around old.id email password) :
    (db.amended .users row).Accepts around old.id (change.email.getD email)
      (change.password.getD password) := by
  obtain ⟨user, huser, hid, hemail, before, hbefore, hkeptBefore⟩ := haccepts
  obtain rfl := h.eq_of_id Kept.users.mem_standard huser hamends.mem hid
  obtain ⟨kept, hkept, rfl⟩ := hvalues
  have hmem := mem_amended_self h Kept.users.mem_standard hamends.mem hamends.same
  have hcolumns : ForColumns .users (given
      { change with email := change.email.map Text.lower, password := kept }.fields) := by
    intro entry hentry
    exact (by decide : ∀ name ∈ ["name", "email", "role", "password"],
      name ∈ Collection.users.fieldNames ∧ name ≠ "id") entry.1
      ((names_given _).subset (List.mem_map_of_mem hentry))
  have hemailCell : row.cell "email" = (change.email.map Text.lower).elim (user.cell "email") .text :=
    hamends.text_cell hcolumns "email" (by decide) (by simp [AccountChange.fields])
      (by simp [AccountChange.fields])
  have hpasswordCell : row.cell "password" = kept.elim (user.cell "password") .text :=
    hamends.text_cell hcolumns "password" (by decide) (by simp [AccountChange.fields])
      (by simp [AccountChange.fields])
  refine ⟨row, hmem, hamends.same, ?_, ?_⟩
  · rw [hemailCell]
    cases change.email with
    | none => exact hemail
    | some given => rfl
  · generalize change.password = wanted at hkept ⊢
    cases hkept with
    | none => exact ⟨before, hpasswordCell.trans hbefore, hkeptBefore⟩
    | some hgiven => exact ⟨_, hpasswordCell, hgiven⟩

end Store.Database

namespace Http

open Service

variable {around : Surroundings} {state : State} {request : Request} {draft : AccountDraft}
  {change : AccountChange} {u : Int} {email password : String}

/-! ## Requests -/

/-- The request creates the account `u` from a draft: registering or creating an account is answered with
its record. -/
def Request.Creates (around : Surroundings) (state : State) (request : Request) (draft : AccountDraft)
    (u : Int) : Prop :=
  ∃ endpoint operation record, request.Asks around state.database endpoint operation ∧
    (operation = .register draft ∨ operation = .createAccount draft) ∧
    (run operation.perform around state).1 = .ok (.dict record) ∧ Record.field record "id" = .int u

/-- The request changes the account `u`: updating it is answered. -/
def Request.Changes (around : Surroundings) (state : State) (request : Request) (change : AccountChange)
    (u : Int) : Prop :=
  ∃ endpoint id answer, request.Asks around state.database endpoint (.updateAccount id change) ∧
    id.Denotes u ∧ (run (Operation.updateAccount id change).perform around state).1 = .ok answer

/-- Registering and creating an account add it with the next identity. -/
theorem achieves_creation {db : Database} (h : db.Sound) {operation : Operation}
    (hoperation : operation = .register draft ∨ operation = .createAccount draft) :
    Achieves around db operation.perform fun answer after =>
      ∃ role kept row, KeptAs around draft.password kept ∧
        db.Adds .users .users (newAccount draft role kept) row ∧ after = db.grown .users row ∧
        answer = .dict (row.record .users .users) := by
  rcases hoperation with rfl | rfl
  · refine Achieves.map ((achieves_register h draft).weaken ?_)
    rintro _ after ⟨kept, row, hkept, hadds, rfl, rfl⟩
    exact ⟨_, kept, row, hkept, hadds, rfl, rfl⟩
  · refine Achieves.map ((achieves_addAccount h draft draft.role).weaken ?_)
    rintro _ after ⟨kept, row, hkept, hadds, rfl, rfl⟩
    exact ⟨_, kept, row, hkept, hadds, rfl, rfl⟩

/-- A request to register or to create an account that is answered creates the next account. -/
theorem creates_of_isOk (h : state.database.Sound) {endpoint : Endpoint} {operation : Operation}
    (hasks : request.Asks around state.database endpoint operation)
    (hoperation : operation = .register draft ∨ operation = .createAccount draft)
    (hok : (run operation.perform around state).1.isOk = true) :
    request.Creates around state draft (state.database.greatestHandedOut "users" + 1) := by
  obtain ⟨answer, hanswer⟩ := exists_of_isOk hok
  obtain ⟨_, _, row, _, hadds, _, rfl⟩ := (achieves_creation h hoperation).of_run rfl hanswer
  exact ⟨endpoint, operation, _, hasks, hoperation, hanswer, congrArg Datum.int hadds.next⟩

/-- An account that a request creates accepts what it is created with. -/
theorem Request.Creates.accepts (h : state.database.Sound)
    (hcreates : request.Creates around state draft u) :
    (run (answer request) around state).2.database.Accepts around u draft.email draft.password := by
  obtain ⟨endpoint, operation, record, hasks, hoperation, hanswer, hid⟩ := hcreates
  obtain ⟨role, kept, row, hkept, hadds, hafter, hrecord⟩ :=
    (achieves_creation h hoperation).of_run rfl hanswer
  obtain rfl : record = row.record .users .users := Datum.dict.inj hrecord
  obtain rfl : row.id = u := Datum.int.inj hid
  rw [step_of_asks h hasks, show (Operation.step state (around, operation)).database = _ from hafter]
  exact hadds.accepts h hkept

theorem achieves_change {db : Database} (h : db.Sound) (id : Datum) (change : AccountChange) :
    Achieves around db (Operation.updateAccount id change).perform fun _ after =>
      ∃ old row values, id.Denotes old.id ∧ ChangedAccount around change values ∧
        db.Amends .users .users values old row ∧ after = db.amended .users row := by
  refine Achieves.map ((achieves_updateAccount h id change).weaken ?_)
  rintro _ after ⟨old, row, values, hold, hvalues, hamends, hafter, _⟩
  exact ⟨old, row, values, hold, hvalues, hamends, hafter⟩

/-- An account that a request changes accepts what it is given, and else what it accepted before. -/
theorem Request.Changes.accepts (h : state.database.Sound)
    (hchanges : request.Changes around state change u)
    (haccepts : state.database.Accepts around u email password) :
    (run (answer request) around state).2.database.Accepts around u (change.email.getD email)
      (change.password.getD password) := by
  obtain ⟨endpoint, id, answer, hasks, hid, hanswer⟩ := hchanges
  obtain ⟨old, row, values, hold, hvalues, hamends, hafter⟩ :=
    (achieves_change h id change).of_run rfl hanswer
  obtain rfl := hold.unique hid
  rw [step_of_asks h hasks, show (Operation.step state (around, _)).database = _ from hafter]
  exact hamends.accepts h hvalues haccepts

/-- An account that a request neither changes nor takes away accepts what it accepted before. -/
theorem accepts_of_kept (h : state.database.Sound)
    (hunchanged : ∀ change, ¬ request.Changes around state change u)
    (hstays : ∃ user ∈ (run (answer request) around state).2.database.rows "users", user.id = u)
    (haccepts : state.database.Accepts around u email password) :
    (run (answer request) around state).2.database.Accepts around u email password := by
  obtain ⟨user, huser, rfl, hcredentials⟩ := haccepts
  have husers := Kept.users.mem_standard
  -- it is enough that the row of the account is still there as it was
  refine ⟨user, ?_, rfl, hcredentials⟩
  rcases step_of_request h request with hsame | ⟨endpoint, operation, hasks, hstep⟩
  · rwa [hsame]
  rw [hstep] at hstays ⊢
  by_cases hupdate : ∃ id change, operation = .updateAccount id change
  · -- a change that is carried out is one of another account
    obtain ⟨id, change, rfl⟩ := hupdate
    have hachieves := @achieves_change around state.database h id change state rfl
    cases hanswer : (run (Operation.updateAccount id change).perform around state).1 with
    | error failure =>
      rw [hanswer] at hachieves
      rwa [show (Operation.step state (around, _)).database = _ from hachieves]
    | ok answer =>
      rw [hanswer] at hachieves
      obtain ⟨old, row, values, hold, _, hamends, hafter⟩ := hachieves
      have hother : user.id ≠ old.id := fun hsame =>
        hunchanged change ⟨endpoint, id, answer, hasks, hsame ▸ hold, hanswer⟩
      rw [show (Operation.step state (around, _)).database = _ from hafter]
      exact (hamends.makes .users).keeps_row h husers (fun _ => hother) huser
  · obtain ⟨now, hnow, hid⟩ := hstays
    obtain ⟨effect, hmay, _, _, hleaves⟩ := Operation.effect_of_step h (around, operation)
    rcases hleaves.mem_row h husers (by decide) hnow with hold | rfl | ⟨old, _, _, rfl⟩
    · exact h.eq_of_id husers hold huser hid ▸ hnow
    · -- a new account has an identity of its own
      obtain ⟨mid, hmakes, _⟩ := hleaves
      cases hmakes with
      | add _ hnext _ =>
        have := (h.numbered _ husers user huser).2
        omega
    · exact absurd (hmay.writesAccount rfl) hupdate

/-! ## Runs -/

/-- The email address and the password that the account `u` was given last in a run of requests: it was
created with them or given them in a change, and no later request changed them or took the account
away. -/
inductive LastGiven (u : Int) : List (Surroundings × Request) → String → String → Prop
  | created {requests : List (Surroundings × Request)} {around : Surroundings} {request : Request}
      {draft : AccountDraft} (creates : request.Creates around (serveAll .fresh requests) draft u) :
      LastGiven u (requests ++ [(around, request)]) draft.email draft.password
  | changed {requests : List (Surroundings × Request)} {around : Surroundings} {request : Request}
      {change : AccountChange} {email password : String} (before : LastGiven u requests email password)
      (changes : request.Changes around (serveAll .fresh requests) change u) :
      LastGiven u (requests ++ [(around, request)]) (change.email.getD email)
        (change.password.getD password)
  | kept {requests : List (Surroundings × Request)} {around : Surroundings} {request : Request}
      {email password : String} (before : LastGiven u requests email password)
      (unchanged : ∀ change, ¬ request.Changes around (serveAll .fresh requests) change u)
      (stays : ∃ user ∈ (serveAll .fresh (requests ++ [(around, request)])).database.rows "users",
        user.id = u) :
      LastGiven u (requests ++ [(around, request)]) email password

/-- An account accepts what it was given last. -/
theorem LastGiven.accepts {requests : List (Surroundings × Request)}
    (h : LastGiven u requests email password) (present : Surroundings)
    (hiterations : ∀ entry ∈ requests, entry.1.iterations = present.iterations) :
    (serveAll .fresh requests).database.Accepts present u email password := by
  induction h with
  | @created requests around request draft creates =>
    have hsame := hiterations (around, request) (by simp)
    rw [serveAll_concat]
    exact (creates.accepts (sound_serveAll sound_fresh requests)).of_iterations hsame.symm
  | @changed requests around request change email password _ changes ih =>
    have hsame := hiterations (around, request) (by simp)
    have hbefore := ih fun entry hentry => hiterations entry (List.mem_append_left _ hentry)
    rw [serveAll_concat]
    exact (changes.accepts (sound_serveAll sound_fresh requests)
      (hbefore.of_iterations hsame)).of_iterations hsame.symm
  | @kept requests around request email password _ unchanged stays ih =>
    have hbefore := ih fun entry hentry => hiterations entry (List.mem_append_left _ hentry)
    rw [serveAll_concat] at stays ⊢
    have hsame := hiterations (around, request) (by simp)
    exact (accepts_of_kept (sound_serveAll sound_fresh requests) unchanged stays
      (hbefore.of_iterations hsame)).of_iterations hsame.symm

/-- Whoever logs in after a run of requests with the email address and the password that an account was
given last, the address in any case of letters, is told the account's current record, without the
password. Other accounts may be created, changed and deleted in between as they like. All digests are
iterated equally often. -/
theorem authenticate_of_lastGiven {requests : List (Surroundings × Request)}
    (h : LastGiven u requests email password) (present : Surroundings)
    (hiterations : ∀ entry ∈ requests, entry.1.iterations = present.iterations) :
    let now := serveAll .fresh requests
    ∃ user ∈ now.database.rows "users", user.id = u ∧
      "password" ∉ Record.names (user.record .users .users) ∧
      ∀ given : Wording, given.lower = (Wording.proper email).lower →
        (run (Accounts.authenticate given (.proper password)) present now).1 =
          .ok (some (user.record .users .users)) := by
  intro now
  obtain ⟨user, huser, hid, hemail, kept, hkept, salt, hkeep⟩ := h.accepts present hiterations
  have hsound : now.database.Sound := sound_serveAll sound_fresh requests
  refine ⟨user, huser, hid, ?_, fun given hgiven => ?_⟩
  · exact (by decide : "password" ∉ ["id", "name", "email", "role", "created_at"])
  · exact run_authenticate hsound huser hgiven hemail hkept (Password.verify_of_keep hkeep)

/-- Ada gives herself another email address. -/
def moving : Request := asking "PUT" "/api/v1/users/1" "\x7b\"email\":\"Countess@example.com\"\x7d"

/-- What Ada asks for when she registers. -/
def joined : Operation := .register ⟨"Ada", "ada@example.com", "secret1", "user"⟩

/-- What Ada asks for when she gives herself another address. -/
def moved : Operation := .updateAccount (.int 1) ⟨none, some "Countess@example.com", none, none⟩

theorem serveAll_joining : serveAll .fresh [(Operation.calm, joining)] =
    Operation.step .fresh (Operation.calm, joined) :=
  (serveAll_concat .fresh [] _ _).trans (step_of_asks sound_fresh asks_joining)

theorem lastGiven_of_joined : LastGiven 1 [(Operation.calm, joining)] "ada@example.com" "secret1" := by
  have hok : (run joined.perform Operation.calm .fresh).1.isOk = true := by decide +kernel
  exact @LastGiven.created 1 [] _ _ _ (creates_of_isOk sound_fresh asks_joining (.inl rfl) hok)

theorem asks_moving : moving.Asks Operation.calm
    (Operation.step .fresh (Operation.calm, joined)).database .updateAccount moved :=
  asks_asking [("email", .text "Countess@example.com")] (by decide +kernel)
    (rfl : Endpoint.updateAccount.guard = _) (by decide)
    (by decide +kernel : moving.LeadsTo .updateAccount [("user_id", "1")])
    (by with_unfolding_all rfl) rfl

theorem lastGiven_of_moved :
    LastGiven 1 [(Operation.calm, joining), (Operation.calm, moving)] "Countess@example.com"
      "secret1" := by
  have hok : (run moved.perform Operation.calm
      (Operation.step .fresh (Operation.calm, joined))).1.isOk = true := by decide +kernel
  have hasks := asks_moving
  rw [← serveAll_joining] at hasks hok
  obtain ⟨answer, hanswer⟩ := exists_of_isOk hok
  have hchanges : moving.Changes Operation.calm (serveAll .fresh [(Operation.calm, joining)])
      ⟨none, some "Countess@example.com", none, none⟩ 1 :=
    ⟨_, _, answer, hasks, Datum.denotes_int (by decide), hanswer⟩
  exact lastGiven_of_joined.changed hchanges

theorem lower_of_moved : (Wording.proper "COUNTESS@EXAMPLE.COM").lower =
    (Wording.proper "Countess@example.com").lower := by
  decide +kernel

/-- Ada logs in with her new address in capitals. -/
theorem authenticate_of_moved :
    let now := serveAll .fresh [(Operation.calm, joining), (Operation.calm, moving)]
    (Wording.proper "COUNTESS@EXAMPLE.COM").lower = (Wording.proper "Countess@example.com").lower ∧
    ∃ user ∈ now.database.rows "users", user.id = 1 ∧
      (run (Accounts.authenticate (.proper "COUNTESS@EXAMPLE.COM") (.proper "secret1"))
        Operation.calm now).1 = .ok (some (user.record .users .users)) := by
  obtain ⟨user, huser, hid, _, haccepts⟩ :=
    authenticate_of_lastGiven lastGiven_of_moved Operation.calm (by decide)
  exact ⟨lower_of_moved, user, huser, hid, haccepts _ lower_of_moved⟩

end Http
end SchoolCatalog
