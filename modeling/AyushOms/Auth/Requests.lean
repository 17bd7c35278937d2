import AyushOms.Auth.Accounts
import AyushOms.Lib.Run

/-!
# Requests

The API as one system: the clock, what is committed, and every token ever handed out. An event is
a request that reaches the server, some time after the one before it, with whatever bearer token
the client presents; any of its statements may raise. An endpoint other than login and refresh
runs behind `get_current_user` or `require_permission`.

What one request can do to the system is said once, by `Effect`; the invariants of the whole
system are read off its cases.

## Main results

- `step_effect`: every request has one of the effects of `Effect`
-/

namespace AyushOms.Auth

open AyushOms.Lib

variable {Token : Type} (sec : Security Token) (settings : Settings)

/-! ## Section 1: Endpoints -/

/-- What is asked for. `visit` is any endpoint that leaves these tables alone, with the permission
it requires. -/
inductive Request (Token : Type) where
  | login (email password jti : String)
  | refresh (refreshToken : Token)
  | logout (refreshToken : Token)
  | visit (code : Option String)
  | createUser (c : UserCreate)
  | updateUser (id : UUID) (c : UserUpdate)
  | deactivateUser (id : UUID)
  | createRole (c : RoleCreate)
  | updateRole (id : UUID) (c : RoleUpdate)

/-- What an endpoint depends on: nothing, a signed-in user, or one with a permission. -/
def Request.guard : Request Token → Option (Option String)
  | login .. | refresh _ => none
  | logout _ => some none
  | visit code => some code
  | createUser _ | updateUser .. | deactivateUser _ => some (some "users.manage")
  | createRole _ | updateRole .. => some (some "roles.manage")

/-- What is answered, as far as tokens go. -/
inductive Response (Token : Type) where
  | tokens (tokens : Tokens Token)
  | accessToken (accessToken : Token)
  | done
  deriving DecidableEq

/-- The tokens an answer hands out. -/
def issuedBy : Except AuthError (Response Token) → List Token
  | .ok (.tokens tokens) => [tokens.accessToken, tokens.refreshToken]
  | .ok (.accessToken accessToken) => [accessToken]
  | .ok .done | .error _ => []

/-- The endpoint behind its dependencies. -/
def body (now : Instant) : Request Token → AuthTxn (Response Token)
  | .login email password jti => do
    let tokens ← AuthService.login sec settings email password jti now
    return .tokens tokens
  | .refresh refreshToken => do
    let accessToken ← AuthService.refresh sec settings refreshToken now
    return .accessToken accessToken
  | .logout refreshToken => do
    AuthService.logout sec refreshToken now
    return .done
  | .visit _ => return .done
  | .createUser c => do
    let _ ← UserService.createUser sec c
    return .done
  | .updateUser id c => do
    let _ ← UserService.updateUser id c
    return .done
  | .deactivateUser id => do
    let _ ← UserService.deactivateUser id
    return .done
  | .createRole c => do
    let _ ← RBACService.createRole c
    return .done
  | .updateRole id c => do
    let _ ← RBACService.updateRole id c
    return .done

/-- The whole request. -/
def program (credentials : Option Token) (request : Request Token) (now : Instant) :
    AuthTxn (Response Token) :=
  match request.guard with
  | none => body sec settings now request
  | some code => do
    let _ ← authorize sec credentials code now
    body sec settings now request

/-! ## Section 2: The system -/

/-- The clock, what is committed, and the tokens handed out so far. -/
structure Server (Token : Type) where
  now : Instant
  db : AuthDb
  issued : List Token := []

/-- A request, the time since the one before it, and the statements of it that raise. -/
structure Event (Token : Type) where
  elapsed : ℕ
  credentials : Option Token := none
  request : Request Token
  faults : ℕ → Option AuthError := fun _ => none

namespace Server

/-- The time at which a request runs. -/
def clock (s : Server Token) (e : Event Token) : Instant := s.now + e.elapsed

/-- The answer to a request, and its session. -/
def serve (s : Server Token) (e : Event Token) :
    Except AuthError (Response Token) × Txn.Session AuthDb AuthError :=
  (program sec settings e.credentials e.request (s.clock e)).run AuthWrite.apply
    (.fresh s.db e.faults)

/-- One request. -/
def step (s : Server Token) (e : Event Token) : Server Token :=
  let (answer, session) := s.serve sec settings e
  { now := s.clock e, db := session.committed, issued := s.issued ++ issuedBy answer }

end Server

/-- The request is let through as this user. -/
def Admitted (s : Server Token) (e : Event Token) (current : CurrentUser) : Prop :=
  ∃ code, e.request.guard = some code ∧
    ((authorize sec e.credentials code (s.clock e)).run AuthWrite.apply
      (.fresh s.db e.faults)).1 = .ok current

/-! ## Section 3: Effects -/

/-- What an administrative request writes. -/
def Managed (db : AuthDb) : Request Token → AuthDb → Prop
  | .createUser c, db' => UserAdded sec c db db'
  | .updateUser id c, db' => UserChanged id c db db'
  | .deactivateUser id, db' => UserChanged id { isActive := some false } db db'
  | .createRole c, db' => RoleAdded c db db'
  | .updateRole id c, db' => RoleChanged id c db db'
  | .login .., _ | .refresh _, _ | .logout _, _ | .visit _, _ => False

/-- What one request can do: the tables it leaves and the tokens it hands out. -/
inductive Effect (s : Server Token) (e : Event Token) : AuthDb → List Token → Prop where
  | idle : Effect s e s.db []
  | login {email password jti : String} {user : User} {db' : AuthDb}
      (request : e.request = .login email password jti)
      (found : LoggedIn sec settings email password jti (s.clock e) s.db user db') :
      Effect s e db' [(loginTokens sec settings user.id jti (s.clock e)).accessToken,
        (loginTokens sec settings user.id jti (s.clock e)).refreshToken]
  | refresh {token : Token} {user : User} (request : e.request = .refresh token)
      (found : Refreshed sec token (s.clock e) s.db user) :
      Effect s e s.db [createAccessToken sec settings (sec.strUuid user.id) (s.clock e)]
  | logout {token : Token} {db' : AuthDb} (request : e.request = .logout token)
      (found : LoggedOut sec token (s.clock e) s.db db') : Effect s e db' []
  | manage {code : String} {current : CurrentUser} {db' : AuthDb}
      (guard : e.request.guard = some (some code))
      (authorized : Authorized sec e.credentials (some code) (s.clock e) s.db current)
      (managed : Managed sec s.db e.request db') : Effect s e db' []

theorem issuedBy_done {α : Type} (x : AuthTxn α) (session : Txn.Session AuthDb AuthError) :
    issuedBy ((x >>= fun _ => (pure .done : AuthTxn (Response Token))).run AuthWrite.apply
      session).1 = [] := by
  rw [Txn.run_bind]
  cases x.run AuthWrite.apply session with
  | mk result session' =>
    cases result with
    | error e => rfl
    | ok a => rfl

/-- An endpoint that only reports success leaves what its call leaves. -/
theorem leaves_done {α : Type} {x : AuthTxn α} {db : AuthDb} {faults : ℕ → Option AuthError} :
    Txn.Leaves AuthWrite.apply x db
      ((x >>= fun _ => (pure .done : AuthTxn (Response Token))).run AuthWrite.apply
        (.fresh db faults)).2.committed :=
  Txn.Leaves.of_bind_reads (fun _ => Txn.reads_pure (Q := fun _ => True) True.intro)
    ⟨faults, rfl⟩

/-! ## Section 4: Every request has one of the effects -/

variable {sec settings} {s : Server Token} {e : Event Token}

/-- A login that is answered with tokens has written their row; any other has done nothing. -/
theorem effect_login {email password jti : String}
    (hreq : e.request = .login email password jti) :
    Effect sec settings s e (s.serve sec settings e).2.committed
      (issuedBy (s.serve sec settings e).1) := by
  have hserve : s.serve sec settings e = (AuthService.login sec settings email password jti
      (s.clock e) >>= fun tokens => pure (Response.tokens tokens)).run
        AuthWrite.apply (.fresh s.db e.faults) := by
    rw [Server.serve, program, hreq]
    rfl
  rcases Txn.run_settled_map (settled_login email password jti)
    Response.tokens s.db e.faults with ⟨err, s', hrun, hsame⟩ | ⟨tokens, s', hrun, hyields⟩
  · rw [hserve, hrun, hsame]
    exact .idle
  · obtain ⟨user, hfound, rfl⟩ := yields_login hyields
    rw [hserve, hrun]
    exact .login hreq hfound

/-- A refresh writes nothing, and is answered with a token only when it has found what it looks
for. -/
theorem serve_refresh {token : Token} (hreq : e.request = .refresh token) :
    (s.serve sec settings e).2.committed = s.db ∧
    ((∃ err, (s.serve sec settings e).1 = .error err) ∨
      ∃ user, Refreshed sec token (s.clock e) s.db user ∧ (s.serve sec settings e).1 =
        .ok (.accessToken (createAccessToken sec settings (sec.strUuid user.id) (s.clock e)))) := by
  have hserve : s.serve sec settings e = (AuthService.refresh sec settings token
      (s.clock e) >>= fun accessToken => pure (Response.accessToken accessToken)).run
        AuthWrite.apply (.fresh s.db e.faults) := by
    rw [Server.serve, program, hreq]
    rfl
  have hreads : Txn.Reads (fun _ => True) (AuthService.refresh sec settings token (s.clock e)) :=
    reads_refresh token
  rcases Txn.run_settled_map hreads.settled Response.accessToken s.db e.faults with
    ⟨err, s', hrun, hsame⟩ | ⟨accessToken, s', hrun, hyields⟩
  · rw [hserve, hrun]
    exact ⟨hsame, .inl ⟨err, rfl⟩⟩
  · obtain ⟨user, hfound, rfl⟩ := yields_refresh hyields
    obtain ⟨_, hsame⟩ := hreads.yields hyields
    rw [hserve, hrun]
    exact ⟨hsame, .inr ⟨user, hfound, rfl⟩⟩

theorem effect_refresh {token : Token} (hreq : e.request = .refresh token) :
    Effect sec settings s e (s.serve sec settings e).2.committed
      (issuedBy (s.serve sec settings e).1) := by
  obtain ⟨hsame, ⟨err, herror⟩ | ⟨user, hfound, hok⟩⟩ := serve_refresh hreq
  · rw [hsame, herror]
    exact .idle
  · rw [hsame, hok]
    exact .refresh hreq hfound

/-- A request behind a guard: refused with nothing done, or its body run for a user who passed. -/
theorem serve_guarded {code : Option String} (hguard : e.request.guard = some code) :
    ((s.serve sec settings e).2.committed = s.db ∧ issuedBy (s.serve sec settings e).1 = []) ∨
    ∃ current faults', Admitted sec s e current ∧
      Authorized sec e.credentials code (s.clock e) s.db current ∧
      s.serve sec settings e = (body sec settings (s.clock e) e.request).run AuthWrite.apply
        (.fresh s.db faults') := by
  have hserve : s.serve sec settings e = (authorize sec e.credentials code (s.clock e) >>=
      fun _ => body sec settings (s.clock e) e.request).run AuthWrite.apply
        (.fresh s.db e.faults) := by
    rw [Server.serve, program, hguard]
  rw [hserve]
  rcases Txn.run_reads_bind (reads_authorize sec e.credentials code (s.clock e)) AuthWrite.apply
    (fun _ => body sec settings (s.clock e) e.request) s.db e.faults with
    ⟨err, _, hrun, hsame⟩ | ⟨current, faults', hok, hyields, hrun⟩
  · exact .inl ⟨hsame, by rw [hrun]; rfl⟩
  · exact .inr ⟨current, faults', ⟨code, hguard, hok⟩, yields_authorize hyields, hrun⟩

/-- An administrative request leaves the tables alone, or writes what its call writes. -/
theorem managed_of_body (sec : Security Token) (settings : Settings) (db : AuthDb) (now : Instant)
    {request : Request Token} {code : String} (faults : ℕ → Option AuthError)
    (hguard : request.guard = some (some code)) :
    issuedBy ((body sec settings now request).run AuthWrite.apply (.fresh db faults)).1 = [] ∧
    (((body sec settings now request).run AuthWrite.apply (.fresh db faults)).2.committed = db ∨
      Managed sec db request
        ((body sec settings now request).run AuthWrite.apply (.fresh db faults)).2.committed) := by
  cases request with
  | login email password jti => cases hguard
  | refresh token => cases hguard
  | logout token => cases hguard
  | visit code => exact ⟨rfl, .inl rfl⟩
  | createUser c =>
    refine ⟨issuedBy_done _ _, ?_⟩
    rcases Txn.Leaves.thenCommit_reads (writes_addUser c) (fun _ => reads_getUser c.id)
      leaves_done with hsame | ⟨_, hyields⟩
    · exact .inl hsame
    · exact .inr (yields_addUser hyields)
  | updateUser id c =>
    refine ⟨issuedBy_done _ _, ?_⟩
    rcases Txn.Leaves.thenCommit_reads (writes_changeUser id c) (fun _ => reads_getUser id)
      leaves_done with hsame | ⟨_, hyields⟩
    · exact .inl hsame
    · exact .inr (yields_changeUser hyields)
  | deactivateUser id =>
    refine ⟨issuedBy_done _ _, ?_⟩
    rcases Txn.Leaves.thenCommit_reads (writes_changeUser id _) (fun _ => reads_getUser id)
      leaves_done with hsame | ⟨_, hyields⟩
    · exact .inl hsame
    · exact .inr (yields_changeUser hyields)
  | createRole c =>
    refine ⟨issuedBy_done _ _, ?_⟩
    rcases Txn.Leaves.thenCommit_reads (writes_addRole c) (fun _ => reads_getRole c.id)
      leaves_done with hsame | ⟨_, hyields⟩
    · exact .inl hsame
    · exact .inr (yields_addRole hyields)
  | updateRole id c =>
    refine ⟨issuedBy_done _ _, ?_⟩
    rcases Txn.Leaves.thenCommit_reads (writes_changeRole id c) (fun _ => reads_getRole id)
      leaves_done with hsame | ⟨_, hyields⟩
    · exact .inl hsame
    · exact .inr (yields_changeRole hyields)

/-- A logout that is answered has revoked the row of its token; any other has done nothing. -/
theorem serve_logout {token : Token} (hreq : e.request = .logout token) :
    (∃ err, (s.serve sec settings e).1 = .error err ∧
      (s.serve sec settings e).2.committed = s.db) ∨
    (s.serve sec settings e).1 = .ok .done ∧
      LoggedOut sec token (s.clock e) s.db (s.serve sec settings e).2.committed := by
  have hserve : s.serve sec settings e = (authorize sec e.credentials none (s.clock e) >>=
      fun _ => body sec settings (s.clock e) (.logout token)).run AuthWrite.apply
        (.fresh s.db e.faults) := by
    rw [Server.serve, program, hreq]
    rfl
  rw [hserve]
  rcases Txn.run_reads_bind (reads_authorize sec e.credentials none (s.clock e)) AuthWrite.apply
    (fun _ => body sec settings (s.clock e) (.logout token)) s.db e.faults with
    ⟨err, _, hrun, hsame⟩ | ⟨current, faults', _, _, hrun⟩
  · exact .inl ⟨err, hrun, hsame⟩
  · have hbody : body sec settings (s.clock e) (.logout token) =
        (AuthService.logout sec token (s.clock e) >>= fun _ => pure Response.done) := rfl
    rw [hrun, hbody]
    rcases Txn.run_settled_map (settled_logout token) (fun _ => Response.done) s.db faults' with
      ⟨err, s', hlogout, hsame⟩ | ⟨_, s', hlogout, hyields⟩
    · exact .inl ⟨err, by rw [hlogout], by rw [hlogout, hsame]⟩
    · rw [hlogout]
      exact .inr ⟨rfl, yields_logout hyields⟩

theorem effect_logout {token : Token} (hreq : e.request = .logout token) :
    Effect sec settings s e (s.serve sec settings e).2.committed
      (issuedBy (s.serve sec settings e).1) := by
  rcases serve_logout hreq with ⟨err, herror, hsame⟩ | ⟨hdone, hout⟩
  · rw [herror, hsame]
    exact .idle
  · rw [hdone]
    exact .logout hreq hout

/-- An endpoint that leaves the tables alone. -/
theorem effect_visit {code : Option String} (hreq : e.request = .visit code) :
    Effect sec settings s e (s.serve sec settings e).2.committed
      (issuedBy (s.serve sec settings e).1) := by
  have hguard : e.request.guard = some code := congrArg Request.guard hreq
  rcases serve_guarded hguard with ⟨hsame, hissued⟩ | ⟨current, faults', _, _, hserve⟩
  · rw [hsame, hissued]
    exact .idle
  · rw [hserve, hreq]
    exact .idle

/-- An administrative endpoint. -/
theorem effect_manage {code : String} (hguard : e.request.guard = some (some code)) :
    Effect sec settings s e (s.serve sec settings e).2.committed
      (issuedBy (s.serve sec settings e).1) := by
  rcases serve_guarded hguard with ⟨hsame, hissued⟩ | ⟨current, faults', _, hauth, hserve⟩
  · rw [hsame, hissued]
    exact .idle
  · obtain ⟨hissued, hsame | hmanaged⟩ := managed_of_body sec settings s.db
      (s.clock e) faults' hguard
    · rw [hserve, hissued, hsame]
      exact .idle
    · rw [hserve, hissued]
      exact .manage hguard hauth hmanaged

theorem effect_serve (s : Server Token) (e : Event Token) :
    Effect sec settings s e (s.serve sec settings e).2.committed
      (issuedBy (s.serve sec settings e).1) := by
  cases hreq : e.request with
  | login email password jti => exact effect_login hreq
  | refresh token => exact effect_refresh hreq
  | logout token => exact effect_logout hreq
  | visit code => exact effect_visit hreq
  | createUser c => exact effect_manage (congrArg Request.guard hreq)
  | updateUser id c => exact effect_manage (congrArg Request.guard hreq)
  | deactivateUser id => exact effect_manage (congrArg Request.guard hreq)
  | createRole c => exact effect_manage (congrArg Request.guard hreq)
  | updateRole id c => exact effect_manage (congrArg Request.guard hreq)

/-- Every request has one of the effects. -/
theorem step_effect (sec : Security Token) (settings : Settings) (s : Server Token)
    (e : Event Token) : ∃ db' tokens, Effect sec settings s e db' tokens ∧
      s.step sec settings e = ⟨s.clock e, db', s.issued ++ tokens⟩ :=
  ⟨_, _, effect_serve s e, rfl⟩

/-! ## Section 5: A small server -/

/-- Tokens that carry their claims in the open, and identifiers in decimal. -/
def openSecurity : Security (Payload × Instant × Instant) where
  verifyPassword password hash := hash == "argon2:" ++ password
  hashPassword password := "argon2:" ++ password
  encode payload issuedAt expiresAt := (payload, issuedAt, expiresAt)
  decode now token :=
    if wholeSeconds token.2.2 < wholeSeconds now then none else some token.1
  strUuid id := String.ofList (Nat.toDigits 10 id)
  parseUuid text :=
    if text.toList.all Char.isDigit then some (Nat.ofDigitChars 10 text.toList 0) else none

theorem openSecurity_lawful : openSecurity.Lawful where
  decode_encode _ _ _ _ := rfl
  parse_str id := by
    have hdigits : (Nat.toDigits 10 id).all Char.isDigit = true :=
      List.all_eq_true.mpr fun c hc => Nat.isDigit_of_mem_toDigits (by decide) (by decide) hc
    simp only [openSecurity, String.toList_ofList, hdigits, if_true,
      Nat.ofDigitChars_ten_toDigits]

/-- A user who may manage accounts, and one who may not. -/
def smallUsers : Table User UserKey User.keys :=
  .ofList [⟨1, "Asha", "asha@example.com", none, "argon2:first-password", true, true, none, none⟩,
    ⟨2, "Ravi", "ravi@example.com", none, "argon2:second-password", true, false, none, none⟩]
    (by decide)

def smallServer : Server (Payload × Instant × Instant) where
  now := 0
  db := ⟨smallUsers, .empty, .empty, .empty, .empty, .empty⟩

/-- The login of a user of the small server. -/
def smallLogin (email password jti : String) : Event (Payload × Instant × Instant) where
  elapsed := 1000000
  request := .login email password jti

end AyushOms.Auth
