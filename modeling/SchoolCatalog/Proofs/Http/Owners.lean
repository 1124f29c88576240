import SchoolCatalog.Proofs.Http.Identity
import SchoolCatalog.Proofs.Http.Roles
import SchoolCatalog.Proofs.Service.Origins

/-!
# Who owns several schools

Publishing a school looks at what the caller owns: only admins may publish a second one. No operation
gives a school to another account, so whoever owns two schools was an admin when the later one was
published. Changing an account does not look at its schools, and an admin of several schools keeps them
when the role is taken away. This is the one way by which an account that is not an admin comes to own
several schools.

Results:
1. `owns_of_step`, `both_of_step`: who owns a school, or two of them, after an operation.
2. `updates_of_does`: the operation by which an account ceases to be an admin.
3. `both_of_request`: two schools of an account that is not an admin, before and after a request.
4. `demoted_of_owners`: the account was an admin of both schools when a request took the role away.
-/

namespace SchoolCatalog

open Store Store.Database Service

/-! ## Owners and admins -/

namespace Store.Database

/-- The school `s` is there, and it is owned by the account `u`. -/
def Owns (db : Database) (u s : Int) : Prop :=
  ∃ school ∈ db.rows "schools", school.id = s ∧ school.cell "user_id" = .int u

/-- The account `u` is there, and it is an admin. -/
def IsAdmin (db : Database) (u : Int) : Prop :=
  ∃ user ∈ db.rows "users", user.id = u ∧ user.cell "role" = .text "admin"

/-- The account `u` is there, and it is not an admin. -/
def NotAdmin (db : Database) (u : Int) : Prop :=
  ∃ user ∈ db.rows "users", user.id = u ∧ user.cell "role" ≠ .text "admin"

instance (db : Database) (u s : Int) : Decidable (db.Owns u s) :=
  inferInstanceAs (Decidable (∃ school ∈ db.rows "schools", _))

instance (db : Database) (u : Int) : Decidable (db.IsAdmin u) :=
  inferInstanceAs (Decidable (∃ user ∈ db.rows "users", _))

instance (db : Database) (u : Int) : Decidable (db.NotAdmin u) :=
  inferInstanceAs (Decidable (∃ user ∈ db.rows "users", _))

variable {db : Database} {u s : Int}

/-- The owner of a school is there. -/
theorem Owns.owner (h : db.Sound) (howns : db.Owns u s) : db.IsAdmin u ∨ db.NotAdmin u := by
  obtain ⟨school, hschool, _, hcell⟩ := howns
  obtain ⟨user, huser, hnames⟩ := h.named .schools Kept.schools.mem_standard ("user_id", "users")
    (by decide) school hschool
  have hid : user.id = u := Cell.int.inj (hnames.symm.trans hcell)
  by_cases hrole : user.cell "role" = .text "admin"
  · exact .inl ⟨user, huser, hid, hrole⟩
  · exact .inr ⟨user, huser, hid, hrole⟩

theorem NotAdmin.not_isAdmin (h : db.Sound) (hnot : db.NotAdmin u) : ¬ db.IsAdmin u := by
  rintro ⟨user, huser, rfl, hadmin⟩
  obtain ⟨other, hother, hid, hrole⟩ := hnot
  exact hrole (h.eq_of_id Kept.users.mem_standard hother huser hid ▸ hadmin)

end Store.Database

/-! ## Operations -/

namespace Operation

variable {around : Surroundings} {db after : Database} {state : State} {operation : Operation}
  {u s t : Int}

/-- The operation publishes the next school for the account `u`, and its caller is an admin or owns
none. -/
def Publishes (db : Database) (operation : Operation) (u s : Int) : Prop :=
  ∃ draft caller, operation = createSchool draft caller ∧ caller.id.Denotes u ∧
    (caller.isAdmin = true ∨ OwnsNone db caller.id) ∧ s = db.greatestHandedOut "schools" + 1

/-- The operation publishes a school for the account `u`, and its caller is an admin. -/
def PublishesAsAdmin (operation : Operation) (u : Int) : Prop :=
  ∃ draft caller, operation = createSchool draft caller ∧ caller.id.Denotes u ∧ caller.isAdmin = true

/-- Whoever owns a school publishes another one as an admin. -/
theorem Publishes.asAdmin (h : operation.Publishes db u s) (howns : db.Owns u t) :
    operation.PublishesAsAdmin u := by
  obtain ⟨draft, caller, rfl, hcaller, hallowed, _⟩ := h
  obtain ⟨school, hschool, _, hcell⟩ := howns
  have hadmin := hallowed.resolve_right fun hnone => hnone school hschool u hcell hcaller
  exact ⟨draft, caller, rfl, hcaller, hadmin⟩

/-- A school that an account owns after a step it owned before, or the step published it. -/
theorem owns_of_step (h : state.database.Sound) (request : Surroundings × Operation)
    (howns : (step state request).database.Owns u s) :
    state.database.Owns u s ∨ request.2.Publishes state.database u s := by
  obtain ⟨school, hschool, rfl, hcell⟩ := howns
  obtain ⟨around, operation⟩ := request
  cases school_of_step h (around, operation) hschool with
  | kept hold hid hcells =>
    exact .inl ⟨_, hold, hid.symm, (hcells "user_id" (by decide) (by decide)).symm.trans hcell⟩
  | published hallowed hlocated hadds =>
    obtain ⟨v, hv, hcaller⟩ := owner_of_added h hlocated.no_owner hadds
    obtain rfl := Cell.int.inj (hv.symm.trans hcell)
    exact .inr ⟨_, _, rfl, hcaller, hallowed, hadds.next⟩
  | changed hallows hvalues hamends =>
    obtain ⟨col, hcol, hname, _⟩ := owner_column
    have hsame := hamends.cell_eq hcol (hname ▸ hvalues.no_owner)
    rw [hname] at hsame
    exact .inl ⟨_, hallows.mem, hamends.same.symm, hsame.symm.trans hcell⟩

/-- Two schools that an account owns after a step it owned before, or it published one of them as an
admin. -/
theorem both_of_step (h : state.database.Sound) (request : Surroundings × Operation) (hne : s ≠ t)
    (hs : (step state request).database.Owns u s) (ht : (step state request).database.Owns u t) :
    (state.database.Owns u s ∧ state.database.Owns u t) ∨ request.2.PublishesAsAdmin u := by
  rcases owns_of_step h request hs with hs | hs
  · rcases owns_of_step h request ht with ht | ht
    · exact .inl ⟨hs, ht⟩
    · exact .inr (ht.asAdmin hs)
  · rcases owns_of_step h request ht with ht | ht
    · exact .inr (hs.asAdmin ht)
    · -- one operation publishes one school
      obtain ⟨_, _, _, _, _, hs⟩ := hs
      obtain ⟨_, _, _, _, _, ht⟩ := ht
      exact absurd (hs.trans ht.symm) hne

/-- An account ceases to be an admin, and stays, by an operation that changes accounts. -/
theorem updates_of_does (h : db.Sound) (hdoes : operation.Does around db after)
    (hadmin : db.IsAdmin u) (hnot : after.NotAdmin u) :
    ∃ id change, operation = updateAccount id change := by
  obtain ⟨user, huser, rfl, hrole⟩ := hadmin
  have husers := Kept.users.mem_standard
  have hgone : user ∉ after.rows "users" := fun hstays => by
    obtain ⟨_, _, _, _, hleaves⟩ := hdoes
    exact hnot.not_isAdmin hleaves.sound ⟨user, hstays, rfl, hrole⟩
  have hwrites := account_of_does h hdoes huser hgone
  obtain ⟨now, hnow, hid, hother⟩ := hnot
  obtain ⟨effect, hmay, _, _, hleaves⟩ := hdoes
  rcases hleaves.mem_row h husers (by decide) hnow with hbefore | rfl | ⟨old, _, _, rfl⟩
  · obtain rfl := h.eq_of_id husers hbefore huser hid
    exact absurd hrole hother
  · -- what adds an account leaves those that are there
    rcases hmay.writesAccount rfl with ⟨draft, rfl, _⟩ | ⟨draft, rfl, _⟩
    · exact hwrites.elim
    · exact hwrites.elim
  · exact hmay.writesAccount rfl

/-- An operation that writes no account leaves admins what they are. -/
theorem isAdmin_step (h : state.database.Sound) (hadmin : state.database.IsAdmin u)
    (hnot : ¬ operation.WritesAccounts) : (step state (around, operation)).database.IsAdmin u := by
  obtain ⟨user, huser, hid, hrole⟩ := hadmin
  have hdoes := effect_of_step h (around, operation)
  exact ⟨user, not_not.1 fun hgone => hnot (account_of_does h hdoes huser hgone), hid, hrole⟩

end Operation

/-! ## Requests -/

namespace Http

variable {around : Surroundings} {state : State} {request : Request} {u s t : Int}

/-- An admin asks to change an account, and by this the account `u` ceases to be an admin. -/
structure Demotes (around : Surroundings) (before : Database) (request : Request) (after : Database)
    (u : Int) : Prop where
  calls : request.Calls "PUT" [.fixed "users", .parameter "user_id"]
  fromAdmin : FromAdmin around before request.authorization
  admin : before.IsAdmin u
  notAdmin : after.NotAdmin u

theorem Request.Asks.isAdmin {db : Database} {endpoint : Endpoint} {operation : Operation}
    (h : request.Asks around db endpoint operation) (hpublishes : operation.PublishesAsAdmin u) :
    db.IsAdmin u := by
  obtain ⟨draft, caller, rfl, hcaller, hadmin⟩ := hpublishes
  obtain ⟨user, huser, rfl⟩ := h.granted
  exact ⟨user, huser.mem, hcaller.eq_of_int, (isAdmin_caller user).1 hadmin⟩

/-- An account that is not an admin after a request, and owns two schools then, owned both before the
request. It was no admin then either, or the request has taken the role away. -/
theorem both_of_request (h : state.database.Sound) (request : Request) (hne : s ≠ t)
    (hnot : (run (answer request) around state).2.database.NotAdmin u)
    (hs : (run (answer request) around state).2.database.Owns u s)
    (ht : (run (answer request) around state).2.database.Owns u t) :
    (state.database.Owns u s ∧ state.database.Owns u t) ∧
      (state.database.NotAdmin u ∨
        Demotes around state.database request (run (answer request) around state).2.database u) := by
  rcases @step_of_request around _ h request with hsame | ⟨endpoint, operation, hasks, hstep⟩
  · rw [hsame] at hnot hs ht
    exact ⟨⟨hs, ht⟩, .inl hnot⟩
  · rw [hstep] at hnot hs ht ⊢
    have hdoes := Operation.effect_of_step h (around, operation)
    rcases Operation.both_of_step h (around, operation) hne hs ht with hboth | hpublishes
    · refine ⟨hboth, (hboth.1.owner h).symm.imp_right fun hadmin => ?_⟩
      obtain ⟨id, change, rfl⟩ := Operation.updates_of_does h hdoes hadmin hnot
      obtain ⟨hfrom, hcalls⟩ := hasks.updatesAccount
      exact ⟨hcalls, hfrom, hadmin, hnot⟩
    · -- an admin who publishes stays one
      obtain ⟨id, change, rfl⟩ := Operation.updates_of_does h hdoes (hasks.isAdmin hpublishes) hnot
      obtain ⟨_, _, heq, _⟩ := hpublishes
      exact nomatch heq

/-- In every run of requests, if an account that is not an admin owns two schools in the end, then at some
request it owned both and was an admin, and the request, by which an admin asked to change an account,
took the role away and left it both schools. -/
theorem demoted_of_owners (requests : List (Surroundings × Request)) (hne : s ≠ t)
    (hnot : (serveAll .fresh requests).database.NotAdmin u)
    (hs : (serveAll .fresh requests).database.Owns u s)
    (ht : (serveAll .fresh requests).database.Owns u t) :
    ∃ earlier around request later, requests = earlier ++ (around, request) :: later ∧
      let before := (serveAll .fresh earlier).database
      let after := (serveAll .fresh (earlier ++ [(around, request)])).database
      Demotes around before request after u ∧
        (before.Owns u s ∧ before.Owns u t) ∧ after.Owns u s ∧ after.Owns u t := by
  induction requests using List.reverseRecOn with
  | nil =>
    obtain ⟨school, hschool, _⟩ := hs
    have hnone : Database.fresh.rows "schools" = [] := rows_fresh Kept.schools.mem_standard
    exact nomatch hnone ▸ hschool
  | append_singleton requests last ih =>
    obtain ⟨around, request⟩ := last
    have hconcat := serveAll_concat .fresh requests around request
    have hsound : (serveAll .fresh requests).database.Sound := sound_serveAll sound_fresh requests
    rw [hconcat] at hnot hs ht
    obtain ⟨hboth, hbefore | hdemotes⟩ := both_of_request hsound request hne hnot hs ht
    · obtain ⟨earlier, a, r, later, rfl, hresult⟩ := ih hbefore hboth.1 hboth.2
      exact ⟨earlier, a, r, later ++ [(around, request)], by simp, hresult⟩
    · refine ⟨requests, around, request, [], rfl, ?_⟩
      rw [hconcat]
      exact ⟨hdemotes, hboth, hs, ht⟩

/-- The token of the account that registers first. -/
def firstToken : String :=
  (Token.create Operation.calm.settings Operation.calm.now (claimsFor 1) none).toOption.getD ""

theorem named?_firstToken : named? Operation.calm (bearing firstToken) = some 1 := by
  have hgiven :
      (Token.create Operation.calm.settings Operation.calm.now (claimsFor 1) none).toOption.isSome := by
    decide +kernel
  obtain ⟨token, htoken⟩ := Option.isSome_iff_exists.1 hgiven
  have hissued : Issued Operation.calm 1 token := ⟨toOption_eq_some.1 htoken⟩
  rw [firstToken, htoken, Option.getD_some]
  exact named?_of_issued hissued ⟨by decide, by decide⟩ (bearer?_bearing hissued.made) rfl lasts_calm

/-- Ada, who registered first, asks for something. -/
def asking (method path body : String) : Request :=
  { posting path body with method := method, authorization := bearing firstToken }

/-- Ada asks for what an endpoint makes of her request as long as she is an admin. -/
theorem asks_asking {db : Database} {method path body : String} {endpoint : Endpoint}
    {allowed : List String} {parameters : List (String × String)} {operation : Operation}
    (entries : Record) (hadmin : db.IsAdmin 1)
    (hguard : endpoint.guard = .roles allowed) (hallowed : "admin" ∈ allowed)
    (hleads : (asking method path body).LeadsTo endpoint parameters)
    (hpayload : endpoint.payload (asking method path body) = .ok (.value (.dict entries)))
    (hoperation : endpoint.operation ⟨parameters, .ofPairs (queryPairs ""), .value (.dict entries)⟩
      Operation.admin = .ok (some operation)) :
    (asking method path body).Asks Operation.calm db endpoint operation := by
  obtain ⟨user, huser, hid, hrole⟩ := hadmin
  have hcaller : user.caller = Operation.admin := by
    rw [Row.caller, hid, hrole]
    rfl
  have hidentifies : Identifies Operation.calm db (bearing firstToken) user :=
    ⟨huser, hid ▸ named?_firstToken⟩
  refine ⟨parameters, _, Operation.admin, hleads, hpayload, ?_, hoperation⟩
  rw [hguard, ← hcaller]
  exact .roles hidentifies hallowed hrole

/-- What Ada may ask for as an admin is done. -/
theorem serveAll_asking {requests : List (Surroundings × Request)}
    {operations : List (Surroundings × Operation)} {method path body : String} {endpoint : Endpoint}
    {allowed : List String} {parameters : List (String × String)} {operation : Operation}
    (entries : Record) (hsame : serveAll .fresh requests = Operation.runAll .fresh operations)
    (hadmin : (Operation.runAll .fresh operations).database.IsAdmin 1)
    (hguard : endpoint.guard = .roles allowed) (hallowed : "admin" ∈ allowed)
    (hleads : (asking method path body).LeadsTo endpoint parameters)
    (hpayload : endpoint.payload (asking method path body) = .ok (.value (.dict entries)))
    (hoperation : endpoint.operation ⟨parameters, .ofPairs (queryPairs ""), .value (.dict entries)⟩
      Operation.admin = .ok (some operation)) :
    serveAll .fresh (requests ++ [(Operation.calm, asking method path body)]) =
      Operation.runAll .fresh (operations ++ [(Operation.calm, operation)]) := by
  rw [serveAll_concat, hsame, Operation.runAll_concat]
  exact step_of_asks (Operation.sound_run sound_fresh operations)
    (asks_asking entries hadmin hguard hallowed hleads hpayload hoperation)

/-- Ada publishes a school. -/
def publishing (name : String) : Request := asking "POST" "/api/v1/schools"
  ("\x7b\"name\":\"" ++ name ++ "\",\"description\":\"A school\",\"address\":\"1 Main St\"\x7d")

/-- Ada makes herself a publisher. -/
def resigning : Request := asking "PUT" "/api/v1/users/1" "\x7b\"role\":\"publisher\"\x7d"

/-- Ada registers, publishes two schools as an admin, and then makes herself a publisher. -/
def stepping : List (Surroundings × Request) :=
  [joining, publishing "One", publishing "Two", resigning].map (Operation.calm, ·)

/-- The operations that Ada asks for. -/
def steps : List (Surroundings × Operation) :=
  [.register ⟨"Ada", "ada@example.com", "secret1", "user"⟩,
    .createSchool ⟨"One", "A school", none, none, none, .proper "1 Main St"⟩ Operation.admin,
    .createSchool ⟨"Two", "A school", none, none, none, .proper "1 Main St"⟩ Operation.admin,
    .updateAccount (.int 1) ⟨none, none, some "publisher", none⟩].map (Operation.calm, ·)

theorem serveAll_publishing :
    serveAll .fresh (stepping.take 2) = Operation.runAll .fresh (steps.take 2) := by
  have hjoined : serveAll .fresh (stepping.take 1) = Operation.runAll .fresh (steps.take 1) :=
    step_of_asks sound_fresh asks_joining
  exact serveAll_asking [("name", .text "One"), ("description", .text "A school"),
    ("address", .text "1 Main St")] hjoined (by decide) (rfl : Endpoint.createSchool.guard = _)
    (by decide) (by decide +kernel : (publishing "One").LeadsTo .createSchool [])
    (by with_unfolding_all rfl) rfl

theorem isAdmin_published : (Operation.runAll .fresh (steps.take 2)).database.IsAdmin 1 :=
  Operation.isAdmin_step (Operation.sound_run sound_fresh (steps.take 1)) (by decide) not_false

theorem serveAll_stepping : serveAll .fresh stepping = Operation.runAll .fresh steps := by
  have hthird : (Operation.runAll .fresh (steps.take 3)).database.IsAdmin 1 :=
    Operation.isAdmin_step (Operation.sound_run sound_fresh (steps.take 2)) isAdmin_published not_false
  have htwo : serveAll .fresh (stepping.take 3) = Operation.runAll .fresh (steps.take 3) :=
    serveAll_asking [("name", .text "Two"), ("description", .text "A school"),
      ("address", .text "1 Main St")] serveAll_publishing isAdmin_published
      (rfl : Endpoint.createSchool.guard = _) (by decide)
      (by decide +kernel : (publishing "Two").LeadsTo .createSchool [])
      (by with_unfolding_all rfl) rfl
  exact serveAll_asking [("role", .text "publisher")] htwo hthird
    (rfl : Endpoint.updateAccount.guard = _) (by decide)
    (by decide +kernel : resigning.LeadsTo .updateAccount [("user_id", "1")])
    (by with_unfolding_all rfl) rfl

theorem rows_of_steps : let after := (Operation.runAll .fresh steps).database
    ((after.rows "schools").map fun school => (school.id, school.cell "user_id"),
      (after.rows "users").map fun user => (user.id, user.cell "role")) =
        ([(1, .int 1), (2, .int 1)], [(1, .text "publisher")]) := by
  decide +kernel

theorem owners_of_stepped :
    let after := (serveAll .fresh stepping).database
    after.NotAdmin 1 ∧ after.Owns 1 1 ∧ after.Owns 1 2 := by
  obtain ⟨hschools, husers⟩ := Prod.mk.inj rows_of_steps
  rw [serveAll_stepping]
  have howns {s : Int} (hs : (s, Cell.int 1) ∈ [(1, Cell.int 1), (2, .int 1)]) :
      (Operation.runAll .fresh steps).database.Owns 1 s := by
    rw [← hschools] at hs
    obtain ⟨school, hschool, heq⟩ := List.mem_map.1 hs
    exact ⟨school, hschool, congrArg Prod.fst heq, congrArg Prod.snd heq⟩
  refine ⟨?_, howns (by decide), howns (by decide)⟩
  have huser : ((1 : Int), Cell.text "publisher") ∈ [(1, .text "publisher")] := List.mem_singleton_self _
  rw [← husers] at huser
  obtain ⟨user, huser, heq⟩ := List.mem_map.1 huser
  have hrole : user.cell "role" = .text "publisher" := congrArg Prod.snd heq
  exact ⟨user, huser, congrArg Prod.fst heq, by rw [hrole]; decide⟩

theorem demoted_of_stepped :
    let now := (serveAll .fresh stepping).database
    (now.NotAdmin 1 ∧ now.Owns 1 1 ∧ now.Owns 1 2) ∧
      ∃ earlier around request later, stepping = earlier ++ (around, request) :: later ∧
        let before := (serveAll .fresh earlier).database
        let after := (serveAll .fresh (earlier ++ [(around, request)])).database
        Demotes around before request after 1 ∧
          (before.Owns 1 1 ∧ before.Owns 1 2) ∧ after.Owns 1 1 ∧ after.Owns 1 2 := by
  obtain ⟨hnot, hone, htwo⟩ := owners_of_stepped
  exact ⟨⟨hnot, hone, htwo⟩, demoted_of_owners stepping (by decide) hnot hone htwo⟩

/-- Not every account that owns several schools is an admin. -/
theorem several_of_stepped : ¬ ∀ u s t, s ≠ t → (serveAll .fresh stepping).database.NotAdmin u →
    (serveAll .fresh stepping).database.Owns u s → ¬ (serveAll .fresh stepping).database.Owns u t := by
  obtain ⟨hnot, hone, htwo⟩ := owners_of_stepped
  exact fun hrule => hrule 1 1 2 (by decide) hnot hone htwo

end Http
end SchoolCatalog
