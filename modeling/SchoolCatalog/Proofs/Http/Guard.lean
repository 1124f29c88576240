import SchoolCatalog.Http.Guard
import SchoolCatalog.Proofs.Service.Outcomes

/-!
# Who is let in

A request identifies a stored account if it bears a token that is rightly signed and not past, and whose
claims name the identity of the account. Whoever a guard lets in is the account that the request
identifies, with the role that it has now; an endpoint for certain roles lets in no other. Letting someone
in leaves the state as it is.

Results:
1. `finds_currentUser`: what is known of the caller is what is stored of the account.
2. `finds_admitted`, `quiet_admitting`: whom a guard lets in.
-/

namespace SchoolCatalog

open Store Service

/-! ## Accounts as callers -/

/-- The caller that an account is. -/
def Store.Row.caller (user : Row) : Caller := ⟨.int user.id, (user.cell "role").toDatum⟩

theorem same_text (cell : Cell) (s : String) : cell.toDatum.same (.text s) = true ↔ cell = .text s := by
  cases cell with
  | text t => simp [Cell.toDatum, Datum.same]
  | null => exact ⟨fun h => (nomatch h), fun h => (nomatch h)⟩
  | int i => exact ⟨fun h => (nomatch h), fun h => (nomatch h)⟩
  | real x => exact ⟨fun h => (nomatch h), fun h => (nomatch h)⟩
  | blob b => exact ⟨fun h => (nomatch h), fun h => (nomatch h)⟩

theorem hasRole_caller (user : Row) (role : String) :
    user.caller.hasRole role = true ↔ user.cell "role" = .text role :=
  same_text _ _

theorem isAdmin_caller (user : Row) : user.caller.isAdmin = true ↔ user.cell "role" = .text "admin" :=
  hasRole_caller user "admin"

namespace Http

variable {around : Surroundings} {db : Database} {authorization : Option Bytes} {user : Row}

/-- The claims of the token that an authorization bears, if it is rightly signed and not past. -/
def claims? (around : Surroundings) (authorization : Option Bytes) : Option Record :=
  (bearer? authorization).bind fun token =>
    (Token.decode around.settings around.now token).toOption.join

/-- The identity that an authorization names. -/
def named? (around : Surroundings) (authorization : Option Bytes) : Option Int :=
  (claims? around authorization).bind fun claims => (Record.field claims "sub").toWhole.toOption

/-- An authorization identifies the stored account that it names. -/
structure Identifies (around : Surroundings) (db : Database) (authorization : Option Bytes)
    (user : Row) : Prop where
  mem : user ∈ db.rows "users"
  named : named? around authorization = some user.id

/-- What is known of a caller: the name in the token, and the identity, role and email address that are
stored of the account. -/
def known (name : Datum) (user : Row) : Record :=
  [("sub", name), ("user_id", .int user.id), ("role", (user.cell "role").toDatum),
    ("email", (user.cell "email").toDatum)]

theorem quiet_accountOf (claims : Record) : Quiet (accountOf claims) := by
  unfold accountOf
  split
  · exact spares_getRecord _ _ _
  · exact spares_fail _
  · exact spares_pure _

theorem quiet_currentUser (authorization : Option Bytes) : Quiet (currentUser authorization) := by
  unfold currentUser
  split
  · exact spares_pure _
  · refine spares_surroundings.bind fun around => (spares_ofExcept _).bind fun decoded => ?_
    split
    · exact spares_pure _
    · refine (quiet_accountOf _).bind fun found => ?_
      split <;> exact spares_pure _

/-! ## The account of a token -/

/-- The account that the claims name is a stored one. -/
theorem finds_accountOf (h : db.Sound) (claims : Record) :
    Finds around db (accountOf claims) fun found => ∀ record, found = some record →
      ∃ user ∈ db.rows "users", (Record.field claims "sub").toWhole = .ok user.id ∧
        record = user.record .users .users := by
  unfold accountOf
  split
  next id hid =>
    refine (finds_of_eq (ensures_getRecord (.int id) none)).weaken fun found hfound => ?_
    rintro record rfl
    obtain ⟨user, huser, hdenotes, rfl⟩ := of_record?_some h .users hfound
    exact ⟨user, huser, hdenotes.eq_of_int ▸ hid, rfl⟩
  next => exact achieves_fail _
  next => exact finds_pure fun _ hsome => nomatch hsome

theorem record_user (name : Datum) (user : Row) :
    ([("sub", name), ("user_id", Record.field (user.record .users .users) "id"),
      ("role", Record.field (user.record .users .users) "role"),
      ("email", Record.field (user.record .users .users) "email")] : Record) = known name user := by
  have hid := field_record .users user (by decide : "id" ∈ Collection.users.visibleFields)
  have hrole := field_record .users user (by decide : "role" ∈ Collection.users.visibleFields)
  have hemail := field_record .users user
    (by decide : "email" ∈ Collection.users.visibleFields)
  rw [hid, hrole, hemail]
  rfl

/-- What is known of a caller is what is stored of the account that the request identifies. -/
theorem finds_currentUser (h : db.Sound) (authorization : Option Bytes) :
    Finds around db (currentUser authorization) fun found => ∀ record, found = .ok record →
      ∃ name user, Identifies around db authorization user ∧ record = known name user := by
  unfold currentUser
  split
  next => exact finds_pure fun _ hok => nomatch hok
  next token htoken =>
    refine finds_surroundings.bind fun around' (hsame : around' = around) => ?_
    subst hsame
    refine (finds_ofExcept _).bind fun decoded hdecoded => ?_
    cases decoded with
    | none => exact finds_pure fun _ hok => nomatch hok
    | some claims =>
      refine (finds_accountOf h claims).bind fun found hfound => ?_
      cases found with
      | none => exact finds_pure fun _ hok => nomatch hok
      | some record =>
        obtain ⟨user, huser, hsub, rfl⟩ := hfound record rfl
        refine finds_pure fun answer hok => ?_
        obtain rfl := Except.ok.inj hok
        have hclaims : claims? around' authorization = some claims := by
          rw [claims?, htoken, Option.bind_some, hdecoded]
          rfl
        have hnamed : named? around' authorization = some user.id := by
          rw [named?, hclaims, Option.bind_some, hsub]
          rfl
        exact ⟨_, user, ⟨huser, hnamed⟩, record_user _ user⟩

/-! ## Guards -/

theorem quiet_identify (authorization : Option Bytes) : Quiet (identify authorization) :=
  (quiet_currentUser authorization).map

theorem quiet_admitting (guard : Guard) (authorization : Option Bytes) :
    Quiet <| guard.admit authorization := by
  unfold Guard.admit
  split
  · exact spares_pure _
  · exact quiet_identify _
  · refine (quiet_identify _).bind fun found => ?_
    split
    · exact spares_pure _
    · split <;> exact spares_pure _

theorem finds_identify (h : db.Sound) (authorization : Option Bytes) :
    Finds around db (identify authorization) fun found => ∀ caller, found = .ok caller →
      ∃ user, Identifies around db authorization user ∧ caller = user.caller := by
  refine Achieves.map ((finds_currentUser h authorization).weaken fun found hfound => ?_)
  rintro caller hok
  cases found with
  | error reply => exact nomatch hok
  | ok record =>
    obtain ⟨_, user, huser, rfl⟩ := hfound record rfl
    exact ⟨user, huser, (Except.ok.inj hok).symm⟩

/-- Whom a guard lets in: anyone, without a name; or the account that the request identifies, if it has
one of the roles that are asked for. -/
inductive Guard.Admits (around : Surroundings) (db : Database) (authorization : Option Bytes) :
    Guard → Caller → Prop
  | anyone : Admits around db authorization anyone ⟨.null, .null⟩
  | known {user : Row} : Identifies around db authorization user →
      Admits around db authorization known user.caller
  | roles {allowed : List String} {user : Row} {role : String} :
      Identifies around db authorization user → role ∈ allowed → user.cell "role" = .text role →
      Admits around db authorization (roles allowed) user.caller

/-- Whom a guard lets in depends on what surrounds a request only for whom its authorization names. -/
theorem Guard.Admits.of_named {other : Surroundings} {guard : Guard} {caller : Caller}
    (h : guard.Admits around db authorization caller)
    (hsame : named? other authorization = named? around authorization) :
    guard.Admits other db authorization caller := by
  have hidentifies {user : Row} (huser : Identifies around db authorization user) :
      Identifies other db authorization user :=
    ⟨huser.mem, hsame.trans huser.named⟩
  cases h with
  | anyone => exact .anyone
  | known huser => exact .known (hidentifies huser)
  | roles huser hmem hrole => exact .roles (hidentifies huser) hmem hrole

/-- An authorization identifies an account that is an admin now. -/
def FromAdmin (around : Surroundings) (db : Database) (authorization : Option Bytes) : Prop :=
  ∃ user, Identifies around db authorization user ∧ user.cell "role" = .text "admin"

/-- A guard that asks for something lets in the account that the request identifies. -/
theorem Guard.Admits.identified {guard : Guard} {caller : Caller}
    (h : guard.Admits around db authorization caller) (hasks : guard ≠ .anyone) :
    ∃ user, Identifies around db authorization user ∧ caller = user.caller := by
  cases h with
  | anyone => exact absurd rfl hasks
  | known huser => exact ⟨_, huser, rfl⟩
  | roles huser _ _ => exact ⟨_, huser, rfl⟩

theorem Guard.Admits.admin {caller : Caller}
    (h : (Guard.roles ["admin"]).Admits around db authorization caller) :
    FromAdmin around db authorization := by
  cases h with
  | @roles _ user role huser hmem hrole =>
    obtain rfl := List.mem_singleton.1 hmem
    exact ⟨user, huser, hrole⟩

/-- Who is let in is one whom the guard admits. -/
theorem finds_admitted (h : db.Sound) (guard : Guard) (authorization : Option Bytes) :
    Finds around db ( guard.admit authorization) fun found => ∀ caller, found = .ok caller →
      guard.Admits around db authorization caller := by
  unfold Guard.admit
  cases guard with
  | anyone =>
    refine finds_pure fun caller hok => ?_
    obtain rfl := Except.ok.inj hok
    exact .anyone
  | known =>
    refine (finds_identify h authorization).weaken fun found hfound caller hok => ?_
    obtain ⟨user, huser, rfl⟩ := hfound caller hok
    exact .known huser
  | roles allowed =>
    refine (finds_identify h authorization).bind fun found hfound => ?_
    cases found with
    | error reply => exact finds_pure fun _ hok => nomatch hok
    | ok caller =>
      obtain ⟨user, huser, rfl⟩ := hfound caller rfl
      dsimp only
      split
      next hrole =>
        obtain ⟨role, hmem, hrole⟩ := List.any_eq_true.1 hrole
        refine finds_pure fun caller hok => ?_
        obtain rfl := Except.ok.inj hok
        exact .roles huser hmem ((hasRole_caller user role).1 hrole)
      next => exact finds_pure fun _ hok => nomatch hok

end Http
end SchoolCatalog
