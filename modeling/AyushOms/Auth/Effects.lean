import AyushOms.Auth.Service
import AyushOms.Lib.Responses

/-!
# What Each Call Reads and Writes

One lemma for each call of the service: what a call that returned has found in the tables, and
what it leaves in them. The callers below cite these and never look into the calls again.

## Main results

- `yields_authorize`: who a request is, and what that user may do
- `yields_login`, `yields_refresh`: what a token was issued for
- `yields_addUser`, `yields_changeUser`, `yields_addRole`, `yields_changeRole`: what the
  administration of accounts writes
-/

namespace AyushOms.Auth

open AyushOms.Lib

variable {Token : Type} {sec : Security Token} {settings : Settings} {db db' : AuthDb}
  {now : Instant}

/-! ## Section 1: Lookups -/

theorem id_of_getUser {id : UUID} {user : User} (h : db.getUser id = some user) : user.id = id :=
  eq_of_beq (List.find?_some (p := fun u : User => u.id == id) h)

theorem mem_of_getUser {id : UUID} {user : User} (h : db.getUser id = some user) :
    user ∈ db.users.rows :=
  Table.mem_of_find?_eq_some h

/-- A row of `users` is found under its id. -/
theorem getUser_of_mem {user : User} (h : user ∈ db.users.rows) :
    db.getUser user.id = some user := by
  refine db.users.find?_eq_some_of_mem (k := .id user.id) h (beq_self_eq_true _) fun u hu => ?_
  rw [← eq_of_beq hu]
  exact List.mem_cons_self

/-- The row a stored token is, and its `jti`. -/
theorem storedToken_eq_some {jti : Option String} {token : RefreshToken}
    (h : AuthService.storedToken jti db = some token) :
    jti = some token.jti ∧ token.jti ≠ "" ∧ token ∈ db.refreshTokens.rows := by
  unfold AuthService.storedToken at h
  obtain ⟨j, hj, hfind⟩ := Option.bind_eq_some_iff.mp h
  have hjti : token.jti = j :=
    eq_of_beq (List.find?_some (p := fun t : RefreshToken => t.jti == j) hfind)
  rw [hjti]
  cases jti with
  | none => cases hj
  | some k =>
    simp only [pyOr, pyFalsy, beq_iff_eq] at hj
    split at hj
    · cases hj
    · obtain rfl := Option.some.inj hj
      exact ⟨rfl, ‹_›, Table.mem_of_find?_eq_some hfind⟩

/-- The user whose credentials were given. -/
structure CredentialsOf (sec : Security Token) (email password : String) (db : AuthDb)
    (user : User) : Prop where
  found : db.getByEmail email = some user
  verified : sec.verifyPassword password user.passwordHash = true

theorem credentialsOf_iff {email password : String} {user : User} :
    credentialsOf sec email password db = some user ↔
      CredentialsOf sec email password db user := by
  unfold credentialsOf
  rw [Option.filter_eq_some_iff]
  exact ⟨fun h => ⟨h.1, h.2⟩, fun h => ⟨h.found, h.verified⟩⟩

/-! ## Section 2: Who a request is -/

/-- The request carries an access token that can be read, of an active user who is allowed what
is asked for. -/
structure Authorized (sec : Security Token) (credentials : Option Token) (code : Option String)
    (now : Instant) (db : AuthDb) (current : CurrentUser) : Prop where
  token : ∃ token payload, credentials = some token ∧ sec.decode now token = some payload ∧
    payload.type = some TokenType.access.value ∧
    payload.sub.bind sec.parseUuid = some current.user.id
  found : getWithPermissions current.user.id db = some current
  active : current.user.isActive = true
  allowed : ∀ c, code = some c → ¬ current.Lacks c

theorem getWithPermissions_eq_some {id : UUID} {current : CurrentUser}
    (h : getWithPermissions id db = some current) :
    db.getUser id = some current.user ∧ current.user.id = id ∧
      current.permissionCodes = db.permissionCodes id := by
  obtain ⟨user, huser, rfl⟩ := Option.map_eq_some_iff.mp h
  have hid := id_of_getUser huser
  exact ⟨huser, hid, by rw [hid]⟩

theorem reads_getCurrentUser (sec : Security Token) (credentials : Option Token) (now : Instant) :
    Txn.Reads (fun _ => True) (getCurrentUser sec credentials now) := by
  refine (Txn.reads_orRaise _ _).bind fun token _ => ?_
  refine (Txn.reads_orRaise _ _).bind fun payload _ => ?_
  refine (Txn.reads_raiseIf _ _).bind fun _ _ => ?_
  refine (Txn.reads_orRaise _ _).bind fun userId _ => ?_
  refine (Txn.reads_select _).bind fun user _ => ?_
  exact (Txn.reads_orRaise _ _).mono fun _ _ => True.intro

theorem reads_authorize (sec : Security Token) (credentials : Option Token)
    (code : Option String) (now : Instant) :
    Txn.Reads (fun _ => True) (authorize sec credentials code now) := by
  refine (reads_getCurrentUser sec credentials now).bind fun current _ => ?_
  cases code with
  | none => exact True.intro
  | some code => exact (Txn.reads_raiseIf _ _).bind fun _ _ => True.intro

theorem yields_getCurrentUser {credentials : Option Token} {current : CurrentUser}
    (h : Txn.Yields AuthWrite.apply (getCurrentUser sec credentials now) db current db') :
    Authorized sec credentials none now db current := by
  obtain ⟨token, htoken, h⟩ := Txn.yields_orRaise_bind h
  obtain ⟨payload, hpayload, h⟩ := Txn.yields_orRaise_bind h
  obtain ⟨htype, h⟩ := Txn.yields_raiseIf_bind h
  obtain ⟨userId, hsub, h⟩ := Txn.yields_orRaise_bind h
  replace h := Txn.yields_select_bind h
  obtain ⟨hfound, _⟩ := Txn.yields_orRaise h
  obtain ⟨hfound, hactive⟩ := Option.filter_eq_some_iff.mp hfound
  obtain ⟨_, hid, _⟩ := getWithPermissions_eq_some hfound
  rw [← hid] at hfound hsub
  exact ⟨⟨token, payload, htoken, hpayload, not_not.mp htype, hsub⟩, hfound, hactive, nofun⟩

/-- Who passes `require_permission`. -/
theorem yields_authorize {credentials : Option Token} {code : Option String}
    {current : CurrentUser}
    (h : Txn.Yields AuthWrite.apply (authorize sec credentials code now) db current db') :
    Authorized sec credentials code now db current := by
  obtain ⟨current', s₁, hcurrent, hrest⟩ := Txn.yields_bind h
  have hauth := yields_getCurrentUser hcurrent
  cases code with
  | none =>
    obtain ⟨rfl, _⟩ := Txn.yields_pure hrest
    exact hauth
  | some code =>
    obtain ⟨hallowed, hrest⟩ := Txn.yields_raiseIf_bind hrest
    obtain ⟨rfl, _⟩ := Txn.yields_pure hrest
    exact ⟨hauth.token, hauth.found, hauth.active, fun c hc => Option.some.inj hc ▸ hallowed⟩

/-! ## Section 3: Signing in and out -/

/-- The row `login` adds. -/
def refreshRow (settings : Settings) (jti : String) (userId : UUID) (now : Instant) :
    RefreshToken where
  jti := jti
  userId := userId
  expiresAt := now + seconds settings.jwtRefreshTokenExpire

/-- The tokens `login` hands out. -/
def loginTokens (sec : Security Token) (settings : Settings) (userId : UUID) (jti : String)
    (now : Instant) : Tokens Token where
  accessToken := createAccessToken sec settings (sec.strUuid userId) now
  refreshToken := createRefreshToken sec settings (sec.strUuid userId) jti now

/-- What a login has found and written. -/
structure LoggedIn (sec : Security Token) (settings : Settings) (email password jti : String)
    (now : Instant) (db : AuthDb) (user : User) (db' : AuthDb) : Prop where
  credentials : CredentialsOf sec email password db user
  active : user.isActive = true
  inserted : ∃ table, db.refreshTokens.insert? (refreshRow settings jti user.id now) = some table ∧
    db' = { db with refreshTokens := table }

theorem yields_login {email password jti : String} {tokens : Tokens Token}
    (h : Txn.Yields AuthWrite.apply
      (AuthService.login sec settings email password jti now) db tokens db') :
    ∃ user, LoggedIn sec settings email password jti now db user db' ∧
      tokens = loginTokens sec settings user.id jti now := by
  replace h := Txn.yields_thenCommit h
  replace h := Txn.yields_select_bind h
  obtain ⟨user, huser, h⟩ := Txn.yields_orRaise_bind h
  obtain ⟨hactive, h⟩ := Txn.yields_raiseIf_bind h
  obtain ⟨_, s₁, hflush, hpure⟩ := Txn.yields_bind h
  obtain ⟨rfl, rfl⟩ := Txn.yields_pure hpure
  refine ⟨user, ⟨credentialsOf_iff.mp huser, Bool.not_eq_false _ ▸ hactive, ?_⟩, rfl⟩
  have hwrite := Txn.yields_flush hflush
  simp only [AuthWrite.apply, accepted] at hwrite
  split at hwrite
  · cases hwrite
  · rename_i table hinsert
    exact ⟨table, hinsert, (Except.ok.inj hwrite).symm⟩

theorem writes_startSession (email password jti : String) :
    Txn.Writes (fun _ _ => True)
      (AuthService.startSession sec settings email password jti now) := by
  refine (Txn.reads_select _).writes_bind fun user _ => ?_
  refine (Txn.reads_orRaise _ _).writes_bind fun user _ => ?_
  refine (Txn.reads_raiseIf _ _).writes_bind fun _ _ => ?_
  exact (Txn.writes_flush _).bind fun _ _ _ => Txn.writes_ret True.intro

theorem settled_login (email password jti : String) :
    Txn.Ensures Txn.Settled (AuthService.login sec settings email password jti now) ⟨[], []⟩ :=
  (writes_startSession email password jti).settled

/-- What a refresh has found: a token that can be read, its row not revoked and not expired, and
an active user. -/
structure Refreshed (sec : Security Token) (token : Token) (now : Instant) (db : AuthDb)
    (user : User) : Prop where
  token : ∃ payload stored, sec.decode now token = some payload ∧
    payload.type = some TokenType.refresh.value ∧ payload.jti = some stored.jti ∧
    stored.jti ≠ "" ∧ stored ∈ db.refreshTokens.rows ∧ stored.isActive now = true ∧
    payload.sub.bind sec.parseUuid = some user.id
  found : db.getUser user.id = some user
  active : user.isActive = true

theorem reads_refresh (token : Token) :
    Txn.Reads (fun _ => True) (AuthService.refresh sec settings token now) := by
  refine (Txn.reads_orRaise _ _).bind fun payload _ => ?_
  refine (Txn.reads_raiseIf _ _).bind fun _ _ => ?_
  refine (Txn.reads_select _).bind fun stored _ => ?_
  refine (Txn.reads_orRaise _ _).bind fun _ _ => ?_
  refine (Txn.reads_ofExcept _).bind fun userId _ => ?_
  refine (Txn.reads_select _).bind fun user _ => ?_
  exact (Txn.reads_orRaise _ _).bind fun _ _ => True.intro

theorem subjectOf_eq_ok {payload : Payload} {id : UUID}
    (h : AuthService.subjectOf sec payload = .ok id) :
    payload.sub.bind sec.parseUuid = some id := by
  unfold AuthService.subjectOf at h
  split at h
  · cases h
  · rename_i sub hsub
    split at h
    · cases h
    · rename_i id' hparse
      cases h
      rw [hsub, Option.bind_some, hparse]

theorem yields_refresh {token access : Token}
    (h : Txn.Yields AuthWrite.apply (AuthService.refresh sec settings token now) db access db') :
    ∃ user, Refreshed sec token now db user ∧
      access = createAccessToken sec settings (sec.strUuid user.id) now := by
  obtain ⟨payload, hpayload, h⟩ := Txn.yields_orRaise_bind h
  obtain ⟨htype, h⟩ := Txn.yields_raiseIf_bind h
  replace h := Txn.yields_select_bind h
  obtain ⟨stored, hstored, h⟩ := Txn.yields_orRaise_bind h
  obtain ⟨userId, hsub, h⟩ := Txn.yields_ofExcept_bind h
  replace h := Txn.yields_select_bind h
  obtain ⟨user, huser, h⟩ := Txn.yields_orRaise_bind h
  obtain ⟨rfl, _⟩ := Txn.yields_pure h
  obtain ⟨hstored, hunrevoked⟩ := Option.filter_eq_some_iff.mp hstored
  obtain ⟨huser, hactive⟩ := Option.filter_eq_some_iff.mp huser
  obtain ⟨hjti, hne, hmem⟩ := storedToken_eq_some hstored
  have hid := id_of_getUser huser
  refine ⟨user, ⟨⟨payload, stored, hpayload, not_not.mp htype, hjti, hne, hmem, hunrevoked, ?_⟩,
    ?_, hactive⟩, rfl⟩
  · rw [hid]
    exact subjectOf_eq_ok hsub
  · rw [hid]
    exact huser

/-- The rows of `refresh_tokens` with one of them revoked. -/
def revoked (db : AuthDb) (jti : String) (now : Instant) :
    Table RefreshToken String RefreshToken.keys :=
  db.refreshTokens.modify (fun t => t.jti == jti) (RefreshToken.revoke now)

theorem mem_revoked {jti : String} {row : RefreshToken} :
    row ∈ (revoked db jti now).rows ↔
      ∃ row' ∈ db.refreshTokens.rows, (row'.jti = jti ∧ row = { row' with revokedAt := some now }) ∨
        (row'.jti ≠ jti ∧ row = row') := by
  unfold revoked
  rw [Table.mem_modify]
  simp only [beq_iff_eq]
  rfl

theorem settled_logout (token : Token) :
    Txn.Ensures Txn.Settled (AuthService.logout sec token now) ⟨[], []⟩ := by
  unfold AuthService.logout
  split
  · exact rfl
  · refine (Txn.reads_select _).ensures_bind (fun stored _ => ?_) fun _ => rfl
    split
    · exact rfl
    · exact (Txn.writes_flush _).settled

/-- What a logout leaves: the row the token names is revoked, and no other row has changed. -/
structure LoggedOut (sec : Security Token) (token : Token) (now : Instant) (db db' : AuthDb) :
    Prop where
  revokedRow : ∀ payload jti, sec.decode now token = some payload → payload.jti = some jti →
    jti ≠ "" → ∀ row ∈ db'.refreshTokens.rows, row.jti = jti → row.revokedAt.isSome = true
  tables : db' = db ∨ ∃ jti, db' = { db with refreshTokens := revoked db jti now }

theorem yields_logout {token : Token} {u : PUnit}
    (h : Txn.Yields AuthWrite.apply (AuthService.logout sec token now) db u db') :
    LoggedOut sec token now db db' := by
  unfold AuthService.logout at h
  split at h
  · -- the token names no row
    rename_i hnone
    obtain ⟨_, rfl⟩ := Txn.yields_pure h
    refine ⟨fun payload jti hpayload hjti hne => ?_, .inl rfl⟩
    rw [hpayload, Option.bind_some, hjti, pyOr, if_neg (by simpa [pyFalsy] using hne)] at hnone
    cases hnone
  · rename_i jti hjti
    have hnamed : ∀ payload k, sec.decode now token = some payload → payload.jti = some k →
        k ≠ "" → k = jti := by
      intro payload k hpayload hk hne
      rw [hpayload, Option.bind_some, hk, pyOr, if_neg (by simpa [pyFalsy] using hne)] at hjti
      exact Option.some.inj hjti
    replace h := Txn.yields_select_bind h
    split at h
    · -- the row is missing or revoked already
      rename_i hunrevoked
      obtain ⟨_, rfl⟩ := Txn.yields_pure h
      refine ⟨fun payload k hpayload hk hne row hrow hkey => ?_, .inl rfl⟩
      obtain rfl := hnamed payload k hpayload hk hne
      have hfound : db'.getByJti k = some row := by
        refine db'.refreshTokens.find?_eq_some_of_mem (k := k) hrow (beq_iff_eq.mpr hkey)
          fun r hr => ?_
        rw [← eq_of_beq hr]
        exact List.mem_cons_self
      rw [hfound, Option.filter_eq_none_iff] at hunrevoked
      have hset := hunrevoked row rfl
      cases hrevoked : row.revokedAt with
      | none => exact absurd (by rw [hrevoked]; rfl) hset
      | some at' => rfl
    · rename_i row hrow
      obtain ⟨hrow, _⟩ := Option.filter_eq_some_iff.mp hrow
      have hkey : row.jti = jti :=
        eq_of_beq (List.find?_some (p := fun t : RefreshToken => t.jti == jti) hrow)
      have hwrite := Txn.yields_flush (Txn.yields_thenCommit h)
      obtain rfl := Except.ok.inj hwrite
      refine ⟨fun payload k hpayload hk hne row' hrow' hkey' => ?_, .inr ⟨row.jti, rfl⟩⟩
      obtain rfl := hnamed payload k hpayload hk hne
      obtain ⟨row₀, _, ⟨_, rfl⟩ | ⟨hother, rfl⟩⟩ := mem_revoked.mp hrow'
      · rfl
      · exact absurd (hkey'.trans hkey.symm) hother

end AyushOms.Auth
