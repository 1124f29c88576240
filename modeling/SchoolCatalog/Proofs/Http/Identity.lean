import SchoolCatalog.Proofs.Access.Token
import SchoolCatalog.Proofs.Http.Issuing
import SchoolCatalog.Proofs.Service.Runs

/-!
# Whom a token names

A token names the account that it was made for as long as it lasts: whoever presents it is that account,
with the role and the email address that are stored now, or is refused since the account is gone. No other
account ever takes its place, for an identity that was handed out is never handed out again.

Results:
1. `run_currentUser`: who presents a token that can be read.
2. `run_admit`, `step_of_asks`: whoever is admitted is let in, and what a request asks for is done.
3. `bearer?_bearing`: how a token is presented.
4. `account_of_token`: whom a token names in every run of requests.
-/

namespace SchoolCatalog

open Store Store.Database Service

namespace Http

attribute [local irreducible] Token.seconds

variable {around : Surroundings} {state : State} {authorization : Option Bytes} {token : String}

/-! ## Presenting a token -/

/-- Who presents a token that can be read is the account whose identity it names, or is refused. -/
theorem run_currentUser (h : state.database.Sound) (hbearer : bearer? authorization = some token)
    {claims : Record} (hdecode : Token.decode around.settings around.now token = .ok (some claims))
    {i : Int} (hsub : (Record.field claims "sub").toWhole = .ok i) (hi : (Cell.int i).Proper) :
    (run (currentUser authorization) around state).1 =
      .ok (match (state.database.rows "users").find? (·.id = i) with
        | some user => .ok (known (Record.field claims "sub") user)
        | none => .error (.unauthenticated "User no longer exists")) := by
  have haccount : run (accountOf claims) around state =
      (.ok (((state.database.rows "users").find? (·.id = i)).map (Row.record .users .users)), state) := by
    rw [accountOf, hsub]
    exact (run_getRecord _ _ _).trans (congrArg (·, state) (record?_of_int h .users hi none))
  unfold currentUser
  rw [hbearer]
  dsimp only
  rw [run_bind, run_read]
  dsimp only
  rw [hdecode, run_bind, run_ofExcept]
  dsimp only
  rw [run_bind, haccount]
  cases (state.database.rows "users").find? (·.id = i) with
  | none => rfl
  | some user => exact congrArg (Except.ok ∘ Except.ok) (record_user _ user)

/-- Who is identified is known. -/
theorem Identifies.run_currentUser (h : state.database.Sound) {user : Row}
    (huser : Identifies around state.database authorization user) : ∃ name,
      (run (currentUser authorization) around state).1 = .ok (.ok (known name user)) := by
  obtain ⟨claims, hclaims, hsub⟩ := Option.bind_eq_some_iff.1 huser.named
  obtain ⟨token, hbearer, hdecode⟩ := Option.bind_eq_some_iff.1 hclaims
  have hread := toOption_eq_some.1 (Option.join_eq_some_iff.1 hdecode)
  have hproper := (h.isIdentity Kept.users.mem_standard huser.mem).proper
  refine ⟨Record.field claims "sub", ?_⟩
  rw [Http.run_currentUser h hbearer hread (toOption_eq_some.1 hsub) hproper,
    find?_eq_some_of_unique huser.mem (decide_eq_true rfl) fun other hother hid =>
      h.eq_of_id Kept.users.mem_standard hother huser.mem (of_decide_eq_true hid)]

/-- Whom a guard admits is let in. -/
theorem Guard.Admits.run_admit (h : state.database.Sound) {guard : Guard} {caller : Caller}
    (hadmits : guard.Admits around state.database authorization caller) :
    (run ( guard.admit authorization) around state).1 = .ok (.ok caller) := by
  have hidentify {user : Row} (huser : Identifies around state.database authorization user) :
      (run (identify authorization) around state).1 = .ok (.ok user.caller) := by
    obtain ⟨name, hrun⟩ := huser.run_currentUser h
    rw [identify, run_map, hrun]
    rfl
  cases hadmits with
  | anyone => rfl
  | known huser => exact hidentify huser
  | @roles allowed user role huser hmem hrole =>
    have hallowed : user.caller.hasAnyRole allowed = true :=
      List.any_eq_true.2 ⟨role, hmem, (hasRole_caller user role).2 hrole⟩
    unfold Guard.admit
    dsimp only
    rw [run_quiet_bind (quiet_identify authorization), hidentify huser]
    dsimp only
    rw [if_pos hallowed]
    rfl

/-- What a request asks for is done. -/
theorem step_of_asks (h : state.database.Sound) {request : Request} {endpoint : Endpoint}
    {operation : Operation} (hasks : request.Asks around state.database endpoint operation) :
    (run (answer request) around state).2 = Operation.step state (around, operation) := by
  obtain ⟨parameters, payload, caller, hleads, hpayload, hadmits, hoperation⟩ := hasks
  have hbeside := act_carries endpoint ⟨parameters, .ofPairs (queryPairs request.query), payload⟩ caller
  rw [hoperation] at hbeside
  obtain ⟨action, hact, hcarries⟩ := hbeside.to_ok
  rw [run_answer, serve]
  dsimp only
  rw [show resolve request.method (unescape request.path) = _ from hleads]
  dsimp only
  rw [run_endpoint, hpayload]
  dsimp only
  rw [hadmits.run_admit h]
  dsimp only
  rw [hact]
  exact hcarries around state

/-- The authorization that presents a token. -/
def bearing (token : String) : Option Bytes := some (Bytes.ofLatin1 ("Bearer " ++ token))

/-- A token that is presented is taken as it is. -/
theorem bearer?_bearing {settings : Settings} {now : Int} {claims : Record}
    (h : Token.create settings now claims none = .ok token) : bearer? (bearing token) = some token := by
  have hchars : ("Bearer " ++ token).toList = "Bearer".toList ++ ' ' :: token.toList := by
    rw [String.toList_append]
    rfl
  have hlow : ∀ c ∈ ("Bearer " ++ token).toList, c.toNat < 256 := by
    intro c hc
    rcases List.mem_append.1 (String.toList_append ▸ hc) with hc | hc
    · have hscheme : "Bearer ".toList.all (fun c => c.toNat < 256) = true := by decide
      exact of_decide_eq_true (List.all_eq_true.1 hscheme c hc)
    · exact (Token.plain_of_create h hc).1
  have hcut : Text.cut ' ' ("Bearer " ++ token) = ("Bearer", some token) := by
    rw [Text.cut, hchars]
    show (String.ofList "Bearer".toList, some (String.ofList token.toList)) = _
    rw [String.ofList_toList, String.ofList_toList]
  have htrim : Text.trim token = token := by
    rw [Text.trim, Text.trimBy, Number.trimList_of_none fun c hc => (Token.plain_of_create h hc).2,
      String.ofList_toList]
  have hempty : token.isEmpty = false := by
    simpa [String.isEmpty_iff, ← String.toList_eq_nil_iff] using Token.ne_nil_of_create h
  rw [bearer?, bearing, Option.map_some, Bytes.ofLatin1_toLatin1 hlow, hcut]
  dsimp only
  rw [htrim, hempty, (by decide : Text.lower "Bearer" = "bearer")]
  rfl

/-- An authorization that names an account bears a token that can be read. -/
theorem decode_of_named (hbearer : bearer? authorization = some token) {id : Int}
    (h : named? around authorization = some id) :
    ∃ claims, Token.decode around.settings around.now token = .ok (some claims) := by
  obtain ⟨claims, hclaims, _⟩ := Option.bind_eq_some_iff.1 h
  rw [claims?, hbearer, Option.bind_some] at hclaims
  exact ⟨claims, toOption_eq_some.1 (Option.join_eq_some_iff.1 hclaims)⟩

/-! ## Tokens that were given out -/

theorem flat_claimsFor {id : Int} : ∀ entry ∈ claimsFor id, Json.Flat entry.2 :=
  List.forall_mem_singleton.2 (.text _)

theorem nodup_claimsFor {id : Int} : (Record.names (claimsFor id)).Nodup :=
  List.pairwise_singleton _ _

theorem sub_of_put {id : Int} (ends : Datum) :
    Record.field (Record.put (claimsFor id) "exp" ends) "sub" = .text (toString id) :=
  Record.field_put_of_ne (by decide)

/-- The identity that a token is made for is read back from it. -/
theorem toWhole_toString {id : Int} (hid : Cell.IsIdentity id) :
    (Datum.text (toString id)).toWhole = .ok id :=
  congrArg (Except.mapError _) (Number.readInteger_toString hid.1 hid.2)

/-- Whoever reads a token that was given out reads the identity of its account. -/
theorem Issued.sub {id : Int} (h : Issued around id token) {present : Surroundings} {claims : Record}
    (hdecode : Token.decode present.settings present.now token = .ok (some claims)) :
    Record.field claims "sub" = .text (toString id) := by
  obtain ⟨ends, rfl⟩ := Token.claims_of_decode flat_claimsFor nodup_claimsFor h.made hdecode
  exact sub_of_put _

/-- With the same secret a token can be read as long as it lasts. -/
theorem Issued.read {id : Int} (h : Issued around id token) {present : Surroundings}
    (hsecret : present.settings.secretKey = around.settings.secretKey)
    (hlasts : Token.Lasts around.settings none around.now present.now) :
    ∃ claims, Token.decode present.settings present.now token = .ok (some claims) := by
  obtain ⟨ends, hdecode⟩ :=
    Token.decode_of_lasts flat_claimsFor nodup_claimsFor h.made hsecret hlasts
  exact ⟨_, hdecode⟩

/-- Who presents a token that was given out and can be read is the account that it is made for, or is
refused. -/
theorem run_issued (h : state.database.Sound) (hbearer : bearer? authorization = some token)
    {made : Surroundings} {id : Int} (hid : Cell.IsIdentity id) (hissued : Issued made id token)
    {claims : Record}
    (hdecode : Token.decode around.settings around.now token = .ok (some claims)) :
    (run (currentUser authorization) around state).1 =
      .ok (match (state.database.rows "users").find? (·.id = id) with
        | some user => .ok (known (.text (toString id)) user)
        | none => .error (.unauthenticated "User no longer exists")) := by
  have hsub := hissued.sub hdecode
  have hrun := run_currentUser h hbearer hdecode (hsub ▸ toWhole_toString hid) hid.proper
  rwa [hsub] at hrun

/-- Whoever presents a token that was given out is the account that it is made for, as it is stored now,
or nobody. As long as the token lasts, with the same secret, that depends on whether the account is there
alone. -/
theorem caller_of_issued (h : state.database.Sound) (hbearer : bearer? authorization = some token)
    {made : Surroundings} {id : Int} (hid : Cell.IsIdentity id) (hissued : Issued made id token) :
    let found := (run (currentUser authorization) around state).1
    let name := Datum.text (toString id)
    (∀ record, found = .ok (.ok record) →
      ∃ user ∈ state.database.rows "users", user.id = id ∧ record = known name user) ∧
    (around.settings.secretKey = made.settings.secretKey →
      Token.Lasts made.settings none made.now around.now →
      (∀ user ∈ state.database.rows "users", user.id = id → found = .ok (.ok (known name user))) ∧
      ((∀ user ∈ state.database.rows "users", user.id ≠ id) →
        found = .ok (.error (.unauthenticated "User no longer exists")))) := by
  intro found name
  refine ⟨fun record hrecord => ?_, fun hsecret hlasts => ?_⟩
  · have hknown := @finds_currentUser around _ h authorization state rfl
    rw [show (run (currentUser authorization) around state).1 = _ from hrecord] at hknown
    obtain ⟨_, _, hidentifies, _⟩ := hknown.2 record rfl
    obtain ⟨claims, hdecode⟩ := decode_of_named hbearer hidentifies.named
    rw [show found = _ from run_issued h hbearer hid hissued hdecode] at hrecord
    cases hfind : (state.database.rows "users").find? (·.id = id) with
    | none => rw [hfind] at hrecord; exact nomatch hrecord
    | some user =>
      rw [hfind] at hrecord
      have hsame : user.id = id := by simpa using List.find?_some hfind
      exact ⟨user, List.mem_of_find?_eq_some hfind, hsame,
        (Except.ok.inj (Except.ok.inj hrecord)).symm⟩
  · obtain ⟨claims, hdecode⟩ := hissued.read hsecret hlasts
    rw [show found = _ from run_issued h hbearer hid hissued hdecode]
    refine ⟨fun user huser hsame => ?_, fun habsent => ?_⟩
    · rw [find?_eq_some_of_unique huser (decide_eq_true hsame) fun other hother hid' =>
        h.eq_of_id Kept.users.mem_standard hother huser
          ((of_decide_eq_true hid').trans hsame.symm)]
    · rw [List.find?_eq_none.2 fun user huser => by simpa using habsent user huser]

/-- Whoever presents a token that lasts names its account. -/
theorem named?_of_issued {made : Surroundings} {id : Int} (h : Issued made id token)
    (hid : Cell.IsIdentity id) (hbearer : bearer? authorization = some token)
    (hsecret : around.settings.secretKey = made.settings.secretKey)
    (hlasts : Token.Lasts made.settings none made.now around.now) :
    named? around authorization = some id := by
  obtain ⟨claims, hdecode⟩ := h.read hsecret hlasts
  have hclaims : claims? around authorization = some claims := by
    rw [claims?, hbearer, Option.bind_some, hdecode]
    rfl
  rw [named?, hclaims, Option.bind_some, h.sub hdecode, toWhole_toString hid]
  rfl

/-! ## Runs -/

/-- A run of requests brings no account back: one that was there at some time and is there later was there
all the time between. -/
theorem account_of_between (h : state.database.Sound) {user current : Row}
    (huser : user ∈ state.database.rows "users") (requests later : List (Surroundings × Request))
    (hcurrent : current ∈ (serveAll state (requests ++ later)).database.rows "users")
    (hid : current.id = user.id) :
    ∃ row ∈ (serveAll state requests).database.rows "users", row.id = user.id := by
  have husers := Kept.users.mem_standard
  have hmid := sound_serveAll h requests
  obtain ⟨first, hfirst⟩ := runAll_of_serveAll h requests
  obtain ⟨rest, hrest⟩ := runAll_of_serveAll hmid later
  rw [serveAll_append, hrest] at hcurrent
  -- the identity was handed out before the later part of the run
  have hhanded : current.id ≤ (serveAll state requests).database.greatestHandedOut "users" := by
    rw [hid, hfirst]
    exact Int.le_trans (h.numbered _ husers user huser).2 (Operation.handedOut_run h first _)
  obtain ⟨row, hrow, hsame⟩ := Operation.id_of_run hmid rest husers hcurrent hhanded
  exact ⟨row, hrow, hsame.trans hid⟩

/-- A token that is given out in some run of requests, in answer to a request to register or log in, is
made for the account that the request enters by. Whoever presents it later in the run is this account, as
it is stored then, or nobody. As long as the token lasts and the secret stays, it is read: if the account
is there the caller is known as that account, else it is refused. And the account is never another one of
that identity, for if there is one then there was one all the time since. -/
theorem account_of_token (requests : List (Surroundings × Request)) (around : Surroundings)
    (request : Request) {endpoint : Endpoint} {parameters : List (String × String)}
    (hendpoint : endpoint = .register ∨ endpoint = .login)
    (hleads : request.LeadsTo endpoint parameters) {reply : Reply}
    (hreply : (run (answer request) around (serveAll .fresh requests)).1 = .ok reply) {token : String}
    (htoken : reply.token? = some token) :
    let before := (serveAll .fresh requests).database
    let issued := serveAll .fresh (requests ++ [(around, request)])
    ∃ user, request.Enters around before issued.database user ∧
      ∀ (later : List (Surroundings × Request)) (present : Surroundings) (authorization : Option Bytes),
        bearer? authorization = some token →
        let now := serveAll issued later
        let found := (run (currentUser authorization) present now).1
        let name := Datum.text (toString user.id)
        (∀ record, found = .ok (.ok record) →
          ∃ current ∈ now.database.rows "users", current.id = user.id ∧ record = known name current) ∧
        (present.settings.secretKey = around.settings.secretKey →
          Token.Lasts around.settings none around.now present.now →
          (∀ current ∈ now.database.rows "users", current.id = user.id →
            found = .ok (.ok (known name current))) ∧
          ((∀ current ∈ now.database.rows "users", current.id ≠ user.id) →
            found = .ok (.error (.unauthenticated "User no longer exists")))) ∧
        ∀ current ∈ now.database.rows "users", current.id = user.id →
          ∀ between, between <+: later →
            ∃ row ∈ (serveAll issued between).database.rows "users", row.id = user.id := by
  intro before issued
  have hbefore : before.Sound := sound_serveAll sound_fresh requests
  have hissued : issued.database.Sound := sound_serveAll sound_fresh _
  have hafter : issued = (run (answer request) around (serveAll .fresh requests)).2 :=
    serveAll_concat _ _ _ _
  obtain ⟨user, henters, hmade⟩ := enters_of_answer hbefore hendpoint hleads hreply htoken
  rw [← hafter] at henters
  have hid := hissued.isIdentity Kept.users.mem_standard henters.mem
  refine ⟨user, henters, fun later present authorization hbearer => ?_⟩
  intro now found name
  have hnow : now.database.Sound := sound_serveAll hissued later
  obtain ⟨hany, hlasting⟩ := caller_of_issued hnow hbearer hid hmade
  refine ⟨hany, hlasting, ?_⟩
  rintro current hcurrent hsame between ⟨rest, rfl⟩
  exact account_of_between hissued henters.mem between rest hcurrent hsame

/-- A request with a value in its body. -/
def posting (path body : String) : Request where
  method := "POST"
  path := path
  contentType := some (Bytes.ofText "application/json")
  body := Bytes.ofText body

/-- Ada registers. -/
def joining : Request := posting "/api/v1/auth/register"
  "\x7b\"name\":\"Ada\",\"email\":\"ada@example.com\",\"password\":\"secret1\"\x7d"

theorem asks_joining : joining.Asks Operation.calm Database.fresh .register
    (.register ⟨"Ada", "ada@example.com", "secret1", "user"⟩) := by
  refine ⟨[], .value (.dict [("name", .text "Ada"), ("email", .text "ada@example.com"),
    ("password", .text "secret1")]), _, by decide +kernel, ?_, .anyone, rfl⟩
  with_unfolding_all rfl

theorem lasts_calm : Token.Lasts Operation.calm.settings none Operation.calm.now Operation.calm.now := by
  have hzero : (Token.seconds 0).toOption = some 0 := by decide +kernel
  have hseconds := toOption_eq_some.1 hzero
  exact ⟨0, 0, hseconds, hseconds, by decide⟩

theorem account_of_joined : ∃ reply token user,
    (run (answer joining) Operation.calm .fresh).1 = .ok reply ∧ reply.token? = some token ∧
    bearer? (bearing token) = some token ∧
    user ∈ (serveAll .fresh [(Operation.calm, joining)]).database.rows "users" ∧
    (run (currentUser (bearing token)) Operation.calm (serveAll .fresh [(Operation.calm, joining)])).1 =
      .ok (.ok (known (.text (toString user.id)) user)) := by
  have hgiven : ((run (answer joining) Operation.calm .fresh).1.toOption.bind Reply.token?).isSome := by
    decide +kernel
  obtain ⟨token, hbind⟩ := Option.isSome_iff_exists.1 hgiven
  obtain ⟨reply, hsome, htoken⟩ := Option.bind_eq_some_iff.1 hbind
  have hreply := toOption_eq_some.1 hsome
  have hleads : joining.LeadsTo .register [] := by decide +kernel
  have hmade := enters_of_answer sound_fresh (.inl rfl) hleads hreply htoken
  obtain ⟨_, _, hissued⟩ := hmade
  have hbearer := bearer?_bearing hissued.made
  obtain ⟨user, henters, hnames⟩ :=
    account_of_token [] Operation.calm joining (.inl rfl) hleads hreply htoken
  obtain ⟨_, hlasting, _⟩ := hnames [] Operation.calm (bearing token) hbearer
  exact ⟨reply, token, user, hreply, htoken, hbearer, henters.mem,
    (hlasting rfl lasts_calm).1 user henters.mem rfl⟩

end Http
end SchoolCatalog
