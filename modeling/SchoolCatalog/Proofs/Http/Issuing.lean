import SchoolCatalog.Proofs.Http.Requests

/-!
# Tokens that are given out

Registering and logging in are answered with a token. Whoever registers is a new account, whoever logs in
the account that has the credentials, and the token is made for the identity of that account.

Results:
1. `Answers.bind`: what is known of the answer of an operation.
2. `answers_registering`, `answers_loggingIn`: the account that a token is made for.
3. `enters_of_answer`: the account of a request that is answered with a token.
-/

namespace SchoolCatalog

open Store Store.Database Service

/-! ## Answers of operations -/

namespace Service

variable {α β : Type} {around : Surroundings} {db mid : Database} {x : Service α}
  {done : α → Database → Prop}

/-- If the operation answers, the answer and the database are as described; nothing is said of
failures. -/
def Answers (around : Surroundings) (db : Database) (x : Service α) (done : α → Database → Prop) :
    Prop :=
  Ensures around db x fun result after => ∀ a, result = .ok a → done a after

theorem Achieves.answers (h : Achieves around db x done) : Answers around db x done := by
  refine Ensures.weaken h fun result after hresult => ?_
  rintro a rfl
  exact hresult

theorem answers_pure {a : α} (h : done a db) : Answers around db (pure a : Service α) done :=
  (achieves_pure h).answers

theorem Answers.bind {f : α → Service β} {later : β → Database → Prop} (hx : Answers around db x done)
    (hf : ∀ a mid, done a mid → Answers around mid (f a) later) : Answers around db (x >>= f) later :=
  Ensures.bind hx (fun a mid hdone => hf a mid (hdone a rfl)) fun _ _ _ _ herror => nomatch herror

/-- What comes after finding something out. -/
theorem Finds.answers_bind {known : α → Prop} {f : α → Service β} {later : β → Database → Prop}
    (hx : Finds around db x known) (hf : ∀ a, known a → Answers around db (f a) later) :
    Answers around db (x >>= f) later := by
  refine Answers.bind hx.answers ?_
  rintro a _ ⟨rfl, hknown⟩
  exact hf a hknown

/-- An operation whose failure becomes a value. -/
theorem Answers.attempt_bind {f : Except Failure α → Service β} {later : β → Database → Prop}
    (hx : Answers around db x done) (hok : ∀ a mid, done a mid → Answers around mid (f (.ok a)) later)
    (herror : ∀ failure mid, Answers around mid (f (.error failure)) later) :
    Answers around db (Service.attempt x >>= f) later := by
  have hattempt : Answers around db (Service.attempt x) fun result after =>
      ∀ a, result = .ok a → done a after := by
    refine Ensures.attempt (Ensures.weaken hx fun result after hresult => ?_)
    rintro _ ⟨⟩
    exact hresult
  refine hattempt.bind fun result mid hresult => ?_
  cases result with
  | error failure => exact herror failure mid
  | ok a => exact hok a mid (hresult a rfl)

end Service

namespace Http

open Form

-- what the clock shows is never worked out here
attribute [local irreducible] Token.seconds

/-! ## Replies with a token -/

/-- The token that a reply gives. -/
def Reply.token? (reply : Reply) : Option String :=
  match reply.body with
  | .json (.dict entries) => match Record.field entries "access_token" with
    | .text token => some token
    | _ => none
  | _ => none

theorem token?_error (status : Nat) (text : String) : (Reply.error status text).token? = none := rfl

theorem token?_token (status : Nat) (token : String) :
    (Answer.token status token).reply.token? = some token := rfl

theorem token?_of_payload {request : Request} {reply : Reply}
    (h : Payload.ofRequest request = .error reply) : reply.token? = none := by
  unfold Payload.ofRequest at h
  split at h
  next => exact nomatch h
  next =>
    split at h
    next =>
      unfold Payload.ofJson at h
      split at h
      next => exact nomatch h
      next =>
        cases h
        exact token?_error _ _
      next =>
        cases h
        exact token?_error _ _
    next => exact nomatch h

/-- If a reply gives a token, it is as described. -/
def Gives (known : String → Database → Prop) (reply : Reply) (after : Database) : Prop :=
  ∀ token, reply.token? = some token → known token after

theorem gives_none {known : String → Database → Prop} {reply : Reply} {after : Database}
    (h : reply.token? = none) : Gives known reply after :=
  fun _ htoken => nomatch h.symm.trans htoken

/-! ## The account of a token -/

/-- The claims of a token for an account. -/
def claimsFor (id : Int) : Record := [("sub", .text (toString id))]

/-- A token is made now for the account with an identity. -/
structure Issued (around : Surroundings) (id : Int) (token : String) : Prop where
  made : Token.create around.settings around.now (claimsFor id) none = .ok token

variable {around : Surroundings} {db : Database} {request : Request}

theorem finds_issue {user : Record} {id : Int} (hid : Record.field user "id" = .int id) :
    Finds around db (issue user) (Issued around id) := by
  unfold issue
  refine Finds.bind finds_surroundings ?_
  rintro _ rfl
  rw [hid]
  exact Finds.weaken (finds_ofExcept _) fun token hmade => ⟨hmade⟩

/-- The account of someone who registers: a new one, with the email address in lower case. -/
def Registered (around : Surroundings) (db : Database) (draft : AccountDraft) (token : String)
    (after : Database) : Prop :=
  ∃ user, after.rows "users" = db.rows "users" ++ [user] ∧
    user.cell "email" = .text (Text.lower draft.email) ∧ Issued around user.id token

theorem answers_registering (h : db.Sound) (draft : AccountDraft) :
    Answers around db (registering draft) fun answer after =>
      Gives (Registered around db draft) answer.reply after := by
  unfold registering answering
  refine (achieves_register h draft).answers.attempt_bind ?_ ?_
  · rintro record mid ⟨kept, user, _, hadds, rfl, rfl⟩
    have hid : Record.field (user.record .users .users) "id" = .int user.id :=
      field_record .users user (by decide)
    refine (finds_issue hid).answers_bind fun token htoken => answers_pure ?_
    intro given hgiven
    obtain rfl := Option.some.inj ((token?_token _ _).symm.trans hgiven)
    refine ⟨user, ?_, email_of_added hadds, htoken⟩
    exact (rows_grown h Kept.users.mem_standard user Kept.users.mem_standard).trans (if_pos rfl)
  · exact fun failure mid => answers_pure (gives_none (token?_error _ _))

/-- The account of someone who logs in: one with the credentials. -/
def LoggedIn (around : Surroundings) (db : Database) (given : Credentials) (token : String)
    (after : Database) : Prop :=
  ∃ user ∈ db.rows "users", HasCredentials around given.email given.password user ∧ after = db ∧
    Issued around user.id token

theorem answers_loggingIn (h : db.Sound) (given : Credentials) :
    Answers around db (loggingIn given) fun answer after =>
      Gives (LoggedIn around db given) answer.reply after := by
  unfold loggingIn
  refine (finds_authenticate h given.email given.password).answers_bind fun found hfound => ?_
  cases found with
  | none => exact answers_pure (gives_none (token?_error _ _))
  | some record =>
    obtain ⟨user, huser, hcredentials, hid⟩ := hfound record rfl
    refine (finds_issue hid).answers_bind fun token htoken => answers_pure ?_
    intro given' hgiven
    obtain rfl := Option.some.inj ((token?_token _ _).symm.trans hgiven)
    exact ⟨user, huser, hcredentials, rfl, htoken⟩

/-! ## Requests -/

/-- The account that a request enters by: the new one that it registers, or one that it has the
credentials of. -/
inductive Request.Enters (around : Surroundings) (before after : Database) (request : Request) :
    Row → Prop
  | registering {draft : AccountDraft} {user : Row} :
      request.Asks around before .register (.register draft) →
      after.rows "users" = before.rows "users" ++ [user] →
      user.cell "email" = .text (Text.lower draft.email) → Enters around before after request user
  | loggingIn {email password : Wording} {user : Row} :
      request.Asks around before .login (.authenticate email password) → after = before →
      user ∈ before.rows "users" → HasCredentials around email password user →
      Enters around before after request user

theorem Request.Enters.mem {before after : Database} {user : Row}
    (h : request.Enters around before after user) : user ∈ after.rows "users" := by
  cases h with
  | registering _ hrows _ => exact hrows ▸ List.mem_append_right _ (List.mem_singleton_self _)
  | loggingIn _ hsame huser _ => exact hsame ▸ huser

/-- What a token is known by: the request enters by the account that it is made for. -/
def EntersWith (around : Surroundings) (db : Database) (request : Request) (token : String)
    (after : Database) : Prop :=
  ∃ user, request.Enters around db after user ∧ Issued around user.id token

/-- An endpoint that is open to all and wants a value. -/
theorem answers_serve {endpoint : Endpoint} {parameters : List (String × String)}
    (hopen : endpoint.guard = .anyone) (hwants : endpoint.wantsValue = true)
    {known : String → Database → Prop} (hact : ∀ payload action, endpoint.payload request = .ok payload →
      endpoint.act ⟨parameters, .ofPairs (queryPairs request.query), payload⟩ ⟨.null, .null⟩ =
        .ok action →
      Answers around db action fun answer after => Gives known answer.reply after) :
    Answers around db (endpoint.serve parameters request) (Gives known) := by
  unfold Endpoint.serve
  cases hpayload : endpoint.payload request with
  | error reply =>
    rw [Endpoint.payload, if_pos hwants] at hpayload
    exact answers_pure (gives_none (token?_of_payload hpayload))
  | ok payload =>
    dsimp only
    rw [hopen, Guard.admit]
    refine (finds_pure rfl : Finds around db _ (· = _)).answers_bind ?_
    rintro _ rfl
    dsimp only
    cases haction : endpoint.act ⟨parameters, .ofPairs (queryPairs request.query), payload⟩
        ⟨.null, .null⟩ with
    | bad issues => exact answers_pure (gives_none (token?_error _ _))
    | ok action =>
      exact (hact payload action hpayload haction).bind fun answer mid hgives => answers_pure hgives

/-- Registering and logging in give tokens for the account that the request enters by. -/
theorem answers_endpoint (h : db.Sound) {endpoint : Endpoint} {parameters : List (String × String)}
    (hendpoint : endpoint = .register ∨ endpoint = .login)
    (hleads : request.LeadsTo endpoint parameters) :
    Answers around db (endpoint.serve parameters request)
      (Gives (EntersWith around db request)) := by
  rcases hendpoint with rfl | rfl
  · refine answers_serve rfl rfl fun payload action hpayload haction => ?_
    obtain ⟨draft, hdraft, rfl⟩ := map_ok haction
    refine Ensures.weaken (answers_registering h draft) fun result after hresult => ?_
    intro answer hanswer token htoken
    obtain ⟨user, hrows, hemail, hissued⟩ := hresult answer hanswer token htoken
    have hasks := congrArg (fun x => (fun draft => some (Operation.register draft)) <$> x) hdraft
    exact ⟨user, .registering ⟨parameters, payload, _, hleads, hpayload, .anyone, hasks⟩ hrows hemail,
      hissued⟩
  · refine answers_serve rfl rfl fun payload action hpayload haction => ?_
    obtain ⟨given, hgiven, rfl⟩ := map_ok haction
    refine Ensures.weaken (answers_loggingIn h given) fun result after hresult => ?_
    intro answer hanswer token htoken
    obtain ⟨user, huser, hcredentials, hsame, hissued⟩ := hresult answer hanswer token htoken
    have hasks := congrArg
      (fun x => (fun given : Credentials => some (Operation.authenticate given.email given.password)) <$> x)
      hgiven
    exact ⟨user, .loggingIn ⟨parameters, payload, _, hleads, hpayload, .anyone, hasks⟩ hsame huser
      hcredentials, hissued⟩

/-- A request to register or log in that is answered with a token: the token is made for the account that
the request enters by. -/
theorem enters_of_answer {state : State} (h : state.database.Sound) {endpoint : Endpoint}
    {parameters : List (String × String)} (hendpoint : endpoint = .register ∨ endpoint = .login)
    (hleads : request.LeadsTo endpoint parameters) {reply : Reply}
    (hreply : (run (answer request) around state).1 = .ok reply) {token : String}
    (htoken : reply.token? = some token) :
    ∃ user, request.Enters around state.database (run (answer request) around state).2.database user ∧
      Issued around user.id token := by
  have hanswer : Answers around state.database (answer request)
      (Gives (EntersWith around state.database request)) := by
    unfold answer serve
    dsimp only
    rw [show resolve request.method (unescape request.path) = .endpoint endpoint parameters from hleads]
    exact (answers_endpoint h hendpoint hleads).attempt_bind
      (fun reply mid hgives => answers_pure hgives) fun failure mid => answers_pure (gives_none rfl)
  exact hanswer state rfl reply hreply token htoken

end Http
end SchoolCatalog
