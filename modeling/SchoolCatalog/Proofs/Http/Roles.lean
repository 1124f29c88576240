import SchoolCatalog.Proofs.Http.Requests

/-!
# Who becomes an admin

An account is written by four operations: registering and creating one, changing one and deleting one.
Whoever registers becomes an admin only if there is no account; the others are asked for by admins. So in
every run of requests an account becomes an admin, changes or goes only by these.

Results:
1. `admin_of_does`, `account_of_does`: the operations that make an admin, and that write accounts.
2. `calls_of_leadsTo`: the methods and paths of these operations.
3. `roles_of_request`: what a request does to accounts and their roles.
-/

namespace SchoolCatalog

open Store Store.Database Service

/-! ## Operations -/

namespace Operation

variable {around : Surroundings} {db after : Database} {operation : Operation} {user : Row}

/-- The operations that may make an admin: registering as the first one, and what admins do. -/
def MakesAdmin (db : Database) : Operation → Prop
  | register draft => registeredRole db draft = "admin"
  | createAccount draft => draft.role = "admin"
  | updateAccount _ _ => True
  | _ => False

/-- The operations that write accounts which are there. -/
def WritesAccounts : Operation → Prop
  | updateAccount _ _ | deleteAccount _ => True
  | _ => False

/-- An admin after an operation was one before, or the operation is one that makes admins. -/
theorem admin_of_does (h : db.Sound) (hdoes : operation.Does around db after)
    (huser : user ∈ after.rows "users") (hadmin : user.cell "role" = .text "admin") :
    user ∈ db.rows "users" ∨ operation.MakesAdmin db := by
  obtain ⟨effect, hmay, _, _, hleaves⟩ := hdoes
  rcases hleaves.mem_row h Kept.users.mem_standard (by decide) huser with
    hbefore | rfl | ⟨old, _, _, rfl⟩
  · exact .inl hbefore
  · rcases hmay.writesAccount rfl with ⟨draft, rfl, hrole⟩ | ⟨draft, rfl, hrole⟩
    · exact .inr (Cell.text.inj (hrole.symm.trans hadmin))
    · exact .inr (Cell.text.inj (hrole.symm.trans hadmin))
  · obtain ⟨id, change, rfl⟩ := hmay.writesAccount rfl
    exact .inr trivial

/-- An account that is not as it was after an operation was written by it. -/
theorem account_of_does (h : db.Sound) (hdoes : operation.Does around db after)
    (huser : user ∈ db.rows "users") (hgone : user ∉ after.rows "users") :
    operation.WritesAccounts := by
  obtain ⟨effect, hmay, _, _, hleaves⟩ := hdoes
  have hwritten : ¬ effect.Spares db .users user := fun hspares =>
    hgone (hleaves.keeps_row h Kept.users.mem_standard (by decide) hspares huser)
  cases effect with
  | nothing => exact absurd trivial hwritten
  | add l new => exact absurd trivial hwritten
  | amend l old new =>
    by_cases hname : l = .users
    · obtain ⟨id, change, rfl⟩ := hmay.writesAccount (congrArg Layout.name hname)
      trivial
    · exact absurd (fun heq => absurd heq.symm hname) hwritten
  | remove l old =>
    have hgoes : Goes db l.name old.id .users user := not_not.1 hwritten
    obtain ⟨id, rfl⟩ := hmay.writesAccount hgoes.user.1
    trivial

end Operation

/-! ## Requests -/

namespace Http

/-- The request has a method and a path that fits a pattern below the root of the interface. -/
def Request.Calls (request : Request) (method : String) (pattern : List Segment) : Prop :=
  request.method = method ∧
    (matchPattern (below pattern) (Text.split '/' (unescape request.path))).isSome

variable {around : Surroundings} {db : Database} {request : Request} {endpoint : Endpoint}
  {parameters : List (String × String)}

/-- The route by which a request leads to an endpoint. -/
theorem route_of_leadsTo (h : request.LeadsTo endpoint parameters) :
    ∃ route ∈ routes, route.endpoint = endpoint ∧ request.method = route.method ∧
      matchPattern route.pattern (Text.split '/' (unescape request.path)) = some parameters := by
  unfold Request.LeadsTo resolve at h
  split at h
  next found hfound =>
    obtain ⟨route, hroute, htaken⟩ := List.exists_of_findSome?_eq_some hfound
    split at htaken
    next hmethod =>
      obtain ⟨ps, hps, hsame⟩ := Option.map_eq_some_iff.1 htaken
      cases hsame
      cases h
      exact ⟨route, hroute, rfl, hmethod.symm, hps⟩
    next => exact nomatch htaken
  next =>
    split at h
    next => exact nomatch h
    next => split at h <;> exact nomatch h

/-- A request that leads to an endpoint with one route has its method and pattern. -/
theorem calls_of_leadsTo (h : request.LeadsTo endpoint parameters) {method : String}
    {pattern : List Segment}
    (honly : ∀ route ∈ routes, route.endpoint = endpoint → route = ⟨method, below pattern, endpoint⟩) :
    request.Calls method pattern := by
  obtain ⟨route, hroute, hendpoint, hmethod, hmatch⟩ := route_of_leadsTo h
  obtain rfl := honly route hroute hendpoint
  exact ⟨hmethod, Option.isSome_of_eq_some hmatch⟩

/-- An account is changed at the request of an admin. -/
theorem Request.Asks.updatesAccount {id : Datum} {change : AccountChange}
    (h : request.Asks around db endpoint (.updateAccount id change)) :
    FromAdmin around db request.authorization ∧
      request.Calls "PUT" [.fixed "users", .parameter "user_id"] := by
  obtain ⟨rfl, hadmin⟩ := h.granted
  obtain ⟨parameters, _, _, hleads, _⟩ := h
  exact ⟨hadmin, calls_of_leadsTo hleads (by decide)⟩

/-- An operation that makes an admin is asked for by registering as the first one, or by an admin. -/
theorem Request.Asks.makesAdmin {operation : Operation}
    (h : request.Asks around db endpoint operation) (hmakes : operation.MakesAdmin db) :
    (db.rows "users" = [] ∧ request.Calls "POST" [.fixed "auth", .fixed "register"]) ∨
      FromAdmin around db request.authorization ∧
        (request.Calls "POST" [.fixed "users"] ∨
          request.Calls "PUT" [.fixed "users", .parameter "user_id"]) := by
  have hgranted := h.granted
  have ⟨parameters, _, _, hleads, _⟩ := h
  cases operation with
  | register draft =>
    obtain ⟨rfl, hopen⟩ := hgranted
    have hempty : db.rows "users" = [] := by
      by_contra hne
      have hrole : draft.role = "admin" := (if_neg hne).symm.trans hmakes
      exact absurd hopen (hrole ▸ by decide)
    exact .inl ⟨hempty, calls_of_leadsTo hleads (by decide)⟩
  | createAccount draft =>
    obtain ⟨rfl, hadmin⟩ := hgranted
    exact .inr ⟨hadmin, .inl (calls_of_leadsTo hleads (by decide))⟩
  | updateAccount id change => exact .inr (h.updatesAccount.imp_right .inr)
  | _ => exact hmakes.elim

/-- An account that is there is written at the request of an admin. -/
theorem Request.Asks.writesAccounts {operation : Operation}
    (h : request.Asks around db endpoint operation) (hwrites : operation.WritesAccounts) :
    FromAdmin around db request.authorization ∧
      (request.Calls "PUT" [.fixed "users", .parameter "user_id"] ∨
        request.Calls "DELETE" [.fixed "users", .parameter "user_id"]) := by
  have hgranted := h.granted
  have ⟨parameters, _, _, hleads, _⟩ := h
  cases operation with
  | updateAccount id change => exact h.updatesAccount.imp_right .inl
  | deleteAccount id =>
    obtain ⟨rfl, hadmin⟩ := hgranted
    exact ⟨hadmin, .inr (calls_of_leadsTo hleads (by decide))⟩
  | _ => exact hwrites.elim

/-- In every run of requests, an account becomes an admin only by registering while there is no account,
or by a request that creates or changes accounts and comes from one who was an admin just before; and an
account changes or goes only at the request of such an admin. -/
theorem roles_of_request (requests : List (Surroundings × Request)) (around : Surroundings)
    (request : Request) :
    let before := (serveAll .fresh requests).database
    let after := (serveAll .fresh (requests ++ [(around, request)])).database
    (∀ user ∈ after.rows "users", user.cell "role" = .text "admin" →
      (∃ old ∈ before.rows "users", old.id = user.id ∧ old.cell "role" = .text "admin") ∨
      (before.rows "users" = [] ∧ request.Calls "POST" [.fixed "auth", .fixed "register"]) ∨
      FromAdmin around before request.authorization ∧
        (request.Calls "POST" [.fixed "users"] ∨
          request.Calls "PUT" [.fixed "users", .parameter "user_id"])) ∧
    ∀ user ∈ before.rows "users", user ∉ after.rows "users" →
      FromAdmin around before request.authorization ∧
        (request.Calls "PUT" [.fixed "users", .parameter "user_id"] ∨
          request.Calls "DELETE" [.fixed "users", .parameter "user_id"]) := by
  intro before after
  have h : before.Sound := sound_serveAll sound_fresh requests
  have hafter : after = (run (answer request) around (serveAll .fresh requests)).2.database :=
    congrArg State.database (serveAll_concat _ _ _ _)
  rcases @step_of_request around _ h request with hsame | ⟨endpoint, operation, hasks, hstep⟩
  · have hsame : after = before := hafter.trans (congrArg State.database hsame)
    rw [hsame]
    exact ⟨fun user huser hadmin => .inl ⟨user, huser, rfl, hadmin⟩,
      fun user huser hgone => absurd huser hgone⟩
  · have hdoes : operation.Does around before after := by
      rw [hafter, hstep]
      exact Operation.effect_of_step h (around, operation)
    refine ⟨fun user huser hadmin => ?_, fun user huser hgone => ?_⟩
    · rcases Operation.admin_of_does h hdoes huser hadmin with hbefore | hmakes
      · exact .inl ⟨user, hbefore, rfl, hadmin⟩
      · exact .inr (hasks.makesAdmin hmakes)
    · exact hasks.writesAccounts (Operation.account_of_does h hdoes huser hgone)

end Http
end SchoolCatalog
