import AyushOms.Auth.Requests

/-!
# Sessions

How long a password keeps the door open. An access token is good for fifteen minutes and cannot
be taken back; a refresh token is good for fourteen days and is a row that can be revoked. A
client may present any token at any time, but without the server's secret it cannot make one
that decodes: what decodes was handed out before.

## Main results

- `admitted_signed_in`: whoever is let through signed in with the password not long ago
- `logged_out_for_good`: a refresh token is never accepted again after its logout
- `signed_out`: with no refresh token left, the last access token runs out
-/

namespace AyushOms.Auth

open AyushOms.Lib

variable {Token : Type} {sec : Security Token} {settings : Settings} {s : Server Token}
  {e : Event Token}

/-! ## Section 1: Tokens a client can present -/

/-- The tokens of a request. -/
def Event.presented (e : Event Token) : List Token :=
  e.credentials.toList ++
    match e.request with
    | .refresh token | .logout token => [token]
    | _ => []

/-- A token that the server can decode is one it has handed out. -/
def Unforged (sec : Security Token) (s : Server Token) (e : Event Token) : Prop :=
  ∀ token ∈ e.presented, ∀ payload, sec.decode (s.clock e) token = some payload →
    token ∈ s.issued

/-- The credentials of an active user are given to the login endpoint. -/
def SignsIn (sec : Security Token) (s : Server Token) (e : Event Token) (userId : UUID) : Prop :=
  ∃ email password jti user, e.request = .login email password jti ∧
    CredentialsOf sec email password s.db user ∧ user.isActive = true ∧ user.id = userId

/-- What an access token carries until it runs out. -/
theorem decode_accessToken (hlaw : sec.Lawful) (userId : UUID) (issuedAt now : Instant) :
    sec.decode now (createAccessToken sec settings (sec.strUuid userId) issuedAt) =
      if wholeSeconds (issuedAt + seconds settings.jwtAccessTokenExpire) < wholeSeconds now
      then none else some ⟨some (sec.strUuid userId), some "access", none⟩ :=
  hlaw.decode_encode ..

theorem decode_refreshToken (hlaw : sec.Lawful) (userId : UUID) (jti : String)
    (issuedAt now : Instant) :
    sec.decode now (createRefreshToken sec settings (sec.strUuid userId) jti issuedAt) =
      if wholeSeconds (issuedAt + seconds settings.jwtRefreshTokenExpire) < wholeSeconds now
      then none else some ⟨some (sec.strUuid userId), some "refresh", some jti⟩ :=
  hlaw.decode_encode ..

/-- A second that is not over has not been over for a second. -/
theorem lt_of_not_wholeSeconds_lt {t now : ℤ} (h : ¬ wholeSeconds t < wholeSeconds now) :
    now < t + seconds 1 := by
  unfold wholeSeconds at h
  unfold seconds
  push_cast
  omega

/-! ## Section 2: Where the tokens come from -/

/-- A token is an access token whose user and time `A` accounts for, or the refresh token of a
row. -/
inductive Origin (sec : Security Token) (settings : Settings) (A : UUID → Instant → Prop)
    (db : AuthDb) : Token → Prop where
  | access {userId : UUID} {issuedAt : Instant} (accounted : A userId issuedAt) :
      Origin sec settings A db (createAccessToken sec settings (sec.strUuid userId) issuedAt)
  | refresh {row : RefreshToken} {issuedAt : Instant} (stored : row ∈ db.refreshTokens.rows) :
      Origin sec settings A db
        (createRefreshToken sec settings (sec.strUuid row.userId) row.jti issuedAt)

/-- Every token handed out so far has an origin. -/
def Accounted (sec : Security Token) (settings : Settings) (A : UUID → Instant → Prop)
    (s : Server Token) : Prop :=
  ∀ token ∈ s.issued, Origin sec settings A s.db token

/-- The rows of refresh tokens are only ever added and revoked. -/
def RowsKept (db db' : AuthDb) : Prop :=
  ∀ row ∈ db.refreshTokens.rows, ∃ row' ∈ db'.refreshTokens.rows,
    row'.jti = row.jti ∧ row'.userId = row.userId ∧ row'.expiresAt = row.expiresAt ∧
      (row.revokedAt.isSome = true → row'.revokedAt.isSome = true)

theorem RowsKept.of_eq {db db' : AuthDb} (h : db'.refreshTokens = db.refreshTokens) :
    RowsKept db db' :=
  fun row hrow => ⟨row, by rw [h]; exact hrow, rfl, rfl, rfl, id⟩

theorem SyncedIf.refreshTokens {owner : UUID} {db db' : AuthDb} {Row : Type} {links : Links Row}
    {members : Option (List UUID)}
    (h : SyncedIf links owner members db db')
    (hlinks : ∀ members, Synced links owner members db db' → db'.refreshTokens = db.refreshTokens) :
    db'.refreshTokens = db.refreshTokens := by
  cases members with
  | none => exact congrArg AuthDb.refreshTokens h
  | some members => exact hlinks members h

theorem refreshTokens_synced_userRoles {owner : UUID} {db db' : AuthDb} {members : List UUID}
    (h : Synced userRoleLinks owner members db db') : db'.refreshTokens = db.refreshTokens := by
  obtain ⟨_, table, _, rfl⟩ := synced_userRoles.mp h
  rfl

theorem refreshTokens_synced_rolePermissions {owner : UUID} {db db' : AuthDb}
    {members : List UUID} (h : Synced rolePermissionLinks owner members db db') :
    db'.refreshTokens = db.refreshTokens := by
  obtain ⟨_, table, _, rfl⟩ := synced_rolePermissions.mp h
  rfl

/-- Administration leaves the refresh tokens alone. -/
theorem Managed.refreshTokens {db db' : AuthDb} {request : Request Token}
    (h : Managed sec db request db') : db'.refreshTokens = db.refreshTokens := by
  cases request with
  | login _ _ _ | refresh _ | logout _ | visit _ => exact h.elim
  | createUser c =>
    obtain ⟨users, _, hsynced⟩ := UserAdded.written h
    exact (refreshTokens_synced_userRoles hsynced).trans rfl
  | updateUser id c =>
    exact ((UserChanged.written h).refreshTokens
      fun _ => refreshTokens_synced_userRoles).trans rfl
  | deactivateUser id =>
    exact ((UserChanged.written h).refreshTokens
      fun _ => refreshTokens_synced_userRoles).trans rfl
  | createRole c =>
    obtain ⟨roles, _, hsynced⟩ := RoleAdded.written h
    exact (refreshTokens_synced_rolePermissions hsynced).trans rfl
  | updateRole id c =>
    have hdescribed : (setDescription db id c.description).refreshTokens = db.refreshTokens := by
      cases c.description with
      | none => rfl
      | some description => rfl
    rw [← hdescribed]
    exact (RoleChanged.written h).refreshTokens fun _ => refreshTokens_synced_rolePermissions

theorem LoggedOut.rowsKept {token : Token} {now : Instant} {db db' : AuthDb}
    (h : LoggedOut sec token now db db') : RowsKept db db' := by
  rcases h.tables with rfl | ⟨jti, rfl⟩
  · exact .of_eq rfl
  · intro row hrow
    by_cases hjti : row.jti = jti
    · exact ⟨_, mem_revoked.mpr ⟨row, hrow, .inl ⟨hjti, rfl⟩⟩, rfl, rfl, rfl, fun _ => rfl⟩
    · exact ⟨row, mem_revoked.mpr ⟨row, hrow, .inr ⟨hjti, rfl⟩⟩, rfl, rfl, rfl, id⟩

theorem LoggedIn.rows {email password jti : String} {now : Instant} {db db' : AuthDb}
    {user : User} (h : LoggedIn sec settings email password jti now db user db') :
    db'.refreshTokens.rows = db.refreshTokens.rows ++ [refreshRow settings jti user.id now] ∧
      ∀ row ∈ db.refreshTokens.rows, row.jti ≠ jti := by
  obtain ⟨table, hinsert, rfl⟩ := h.inserted
  obtain ⟨_, hfree, hrows⟩ := Table.insert?_eq_some_iff.mp hinsert
  refine ⟨hrows, fun row hrow hjti => ?_⟩
  exact hfree jti List.mem_cons_self row hrow (hjti ▸ List.mem_cons_self)

/-- Every request keeps the rows. -/
theorem rowsKept_step (sec : Security Token) (settings : Settings) (s : Server Token)
    (e : Event Token) : RowsKept s.db (s.step sec settings e).db := by
  obtain ⟨db', tokens, heffect, hstep⟩ := step_effect sec settings s e
  rw [hstep]
  cases heffect with
  | idle => exact .of_eq rfl
  | login hreq hfound =>
    intro row hrow
    refine ⟨row, ?_, rfl, rfl, rfl, id⟩
    rw [hfound.rows.1]
    exact List.mem_append_left _ hrow
  | refresh hreq hfound => exact .of_eq rfl
  | logout hreq hfound => exact hfound.rowsKept
  | manage hguard hauth hmanaged => exact .of_eq hmanaged.refreshTokens

/-- An origin keeps as long as the rows are kept. -/
theorem Origin.mono {A A' : UUID → Instant → Prop} {db db' : AuthDb} {token : Token}
    (h : Origin sec settings A db token) (hA : ∀ userId issuedAt, A userId issuedAt →
      A' userId issuedAt) (hrows : RowsKept db db') : Origin sec settings A' db' token := by
  cases h with
  | access accounted => exact .access (hA _ _ accounted)
  | refresh stored =>
    obtain ⟨row', hrow', hjti, huser, _, _⟩ := hrows _ stored
    rw [← hjti, ← huser]
    exact .refresh hrow'

/-- A token that is let through as a bearer token. -/
theorem accounted_of_authorized (hlaw : sec.Lawful) {A : UUID → Instant → Prop}
    (haccounted : Accounted sec settings A s) (hunforged : Unforged sec s e)
    {code : Option String} {current : CurrentUser}
    (hauth : Authorized sec e.credentials code (s.clock e) s.db current) :
    ∃ issuedAt, A current.user.id issuedAt ∧
      s.clock e < issuedAt + seconds (settings.jwtAccessTokenExpire + 1) := by
  obtain ⟨token, payload, hcredentials, hdecode, htype, hsub⟩ := hauth.token
  have hpresented : token ∈ e.presented := by
    rw [Event.presented, hcredentials]
    exact List.mem_cons_self
  cases haccounted token (hunforged token hpresented payload hdecode) with
  | refresh stored =>
    -- a refresh token is no access token
    rw [decode_refreshToken hlaw] at hdecode
    split at hdecode
    · cases hdecode
    · obtain rfl := Option.some.inj hdecode
      exact absurd (Option.some.inj htype) (by decide)
  | @access userId issuedAt accounted =>
    rw [decode_accessToken hlaw] at hdecode
    split at hdecode
    · cases hdecode
    · rename_i hlive
      obtain rfl := Option.some.inj hdecode
      rw [Option.bind_some, hlaw.parse_str] at hsub
      obtain rfl := Option.some.inj hsub
      refine ⟨issuedAt, accounted, ?_⟩
      have hlt := lt_of_not_wholeSeconds_lt hlive
      unfold seconds at hlt ⊢
      push_cast at hlt ⊢
      grind

/-- The row behind a refresh that is accepted. -/
theorem stored_of_refreshed (hlaw : sec.Lawful) {A : UUID → Instant → Prop}
    (haccounted : Accounted sec settings A s) (hunforged : Unforged sec s e) {token : Token}
    (hreq : e.request = .refresh token) {user : User}
    (hfound : Refreshed sec token (s.clock e) s.db user) :
    ∃ row ∈ s.db.refreshTokens.rows, row.userId = user.id ∧ row.isActive (s.clock e) = true := by
  obtain ⟨payload, stored, hdecode, htype, hjti, hne, hmem, hactive, hsub⟩ := hfound.token
  have hpresented : token ∈ e.presented := by
    rw [Event.presented, hreq]
    exact List.mem_append_right _ List.mem_cons_self
  cases haccounted token (hunforged token hpresented payload hdecode) with
  | access accounted =>
    rw [decode_accessToken hlaw] at hdecode
    split at hdecode
    · cases hdecode
    · obtain rfl := Option.some.inj hdecode
      exact absurd (Option.some.inj htype) (by decide)
  | @refresh row issuedAt hrow =>
    rw [decode_refreshToken hlaw] at hdecode
    split at hdecode
    · cases hdecode
    · obtain rfl := Option.some.inj hdecode
      rw [Option.bind_some, hlaw.parse_str] at hsub
      -- the row the token was made with is the row its `jti` is looked up as
      obtain rfl : row = stored := s.db.refreshTokens.eq_of_shared_key (k := row.jti) hrow hmem
        List.mem_cons_self (Option.some.inj hjti ▸ List.mem_cons_self)
      exact ⟨row, hrow, Option.some.inj hsub, hactive⟩

/-- One request keeps every token accounted for, when `A'` accounts for the access token it hands
out. -/
theorem accounted_step (hlaw : sec.Lawful) {A A' : UUID → Instant → Prop}
    (haccounted : Accounted sec settings A s) (hunforged : Unforged sec s e)
    (hA : ∀ userId issuedAt, A userId issuedAt → A' userId issuedAt)
    (hlogin : ∀ userId, SignsIn sec s e userId → A' userId (s.clock e))
    (hrefresh : ∀ row ∈ s.db.refreshTokens.rows, row.isActive (s.clock e) = true →
      A' row.userId (s.clock e)) :
    Accounted sec settings A' (s.step sec settings e) := by
  have hrows := rowsKept_step sec settings s e
  obtain ⟨db', tokens, heffect, hstep⟩ := step_effect sec settings s e
  rw [hstep] at hrows ⊢
  intro token htoken
  rcases List.mem_append.mp htoken with hold | hnew
  · exact (haccounted token hold).mono hA hrows
  · cases heffect with
    | idle => cases hnew
    | @login email password jti user db' hreq hfound =>
      have hsigns : SignsIn sec s e user.id :=
        ⟨email, password, jti, user, hreq, hfound.credentials, hfound.active, rfl⟩
      rcases List.mem_cons.mp hnew with rfl | hnew
      · exact .access (hlogin _ hsigns)
      · obtain rfl := List.mem_singleton.mp hnew
        have hrow : refreshRow settings jti user.id (s.clock e) ∈ db'.refreshTokens.rows := by
          rw [hfound.rows.1]
          exact List.mem_append_right _ List.mem_cons_self
        exact .refresh hrow
    | refresh hreq hfound =>
      obtain rfl := List.mem_singleton.mp hnew
      obtain ⟨row, hrow, huser, hactive⟩ :=
        stored_of_refreshed hlaw haccounted hunforged hreq hfound
      rw [← huser]
      exact .access (hrefresh row hrow hactive)
    | logout hreq hfound => cases hnew
    | manage hguard hauth hmanaged => cases hnew

/-! ## Section 3: Whoever is let through has signed in -/

/-- The state after the requests of a list. -/
abbrev after (sec : Security Token) (settings : Settings) (s : Server Token)
    (es : List (Event Token)) : Server Token :=
  run (Server.step sec settings) s es

/-- One of the requests signed the user in, at this time. -/
def SignedInAt (sec : Security Token) (settings : Settings) (s : Server Token)
    (es : List (Event Token)) (userId : UUID) (t : Instant) : Prop :=
  ∃ pre e post, es = pre ++ e :: post ∧ SignsIn sec (after sec settings s pre) e userId ∧
    t = (after sec settings s pre).clock e

/-- No token and no row has been made yet. -/
structure Clean (s : Server Token) : Prop where
  issued : s.issued = []
  rows : s.db.refreshTokens.rows = []

theorem SignedInAt.append {es : List (Event Token)} {userId : UUID} {t : Instant}
    (h : SignedInAt sec settings s es userId t) (e : Event Token) :
    SignedInAt sec settings s (es ++ [e]) userId t := by
  obtain ⟨pre, e', post, rfl, hsigns, ht⟩ := h
  exact ⟨pre, e', post ++ [e], by rw [List.append_assoc, List.cons_append], hsigns, ht⟩

theorem SignsIn.signedInAt {es : List (Event Token)} {userId : UUID}
    (h : SignsIn sec (after sec settings s es) e userId) :
    SignedInAt sec settings s (es ++ [e]) userId ((after sec settings s es).clock e) :=
  ⟨es, e, [], rfl, h, rfl⟩

/-- What is outstanding was begun by a password: every row expires a fixed time after the user
signed in, and no access token was made later than that. -/
structure Traced (sec : Security Token) (settings : Settings) (s : Server Token)
    (es : List (Event Token)) : Prop where
  rows : ∀ row ∈ (after sec settings s es).db.refreshTokens.rows, ∃ t,
    SignedInAt sec settings s es row.userId t ∧
      row.expiresAt = t + seconds settings.jwtRefreshTokenExpire
  tokens : Accounted sec settings (fun userId issuedAt => ∃ t,
    SignedInAt sec settings s es userId t ∧
      issuedAt ≤ t + seconds settings.jwtRefreshTokenExpire) (after sec settings s es)

theorem seconds_nonneg (n : ℕ) : 0 ≤ seconds n :=
  Int.mul_nonneg (Int.natCast_nonneg n) (by decide)

/-- The rows of the next state. -/
theorem rows_step {sec : Security Token} {settings : Settings} {row : RefreshToken}
    (h : row ∈ (s.step sec settings e).db.refreshTokens.rows) :
    (∃ old ∈ s.db.refreshTokens.rows, row.userId = old.userId ∧ row.expiresAt = old.expiresAt ∧
      (old.revokedAt.isSome = true → row.revokedAt.isSome = true)) ∨
    SignsIn sec s e row.userId ∧
      row.expiresAt = s.clock e + seconds settings.jwtRefreshTokenExpire := by
  obtain ⟨db', tokens, heffect, hstep⟩ := step_effect sec settings s e
  rw [hstep] at h
  cases heffect with
  | idle => exact .inl ⟨row, h, rfl, rfl, id⟩
  | @login email password jti user db' hreq hfound =>
    rw [hfound.rows.1] at h
    rcases List.mem_append.mp h with hold | hnew
    · exact .inl ⟨row, hold, rfl, rfl, id⟩
    · obtain rfl := List.mem_singleton.mp hnew
      exact .inr ⟨⟨email, password, jti, user, hreq, hfound.credentials, hfound.active, rfl⟩, rfl⟩
  | refresh hreq hfound => exact .inl ⟨row, h, rfl, rfl, id⟩
  | logout hreq hfound =>
    rcases hfound.tables with rfl | ⟨jti, rfl⟩
    · exact .inl ⟨row, h, rfl, rfl, id⟩
    · obtain ⟨old, hold, ⟨_, rfl⟩ | ⟨_, rfl⟩⟩ := mem_revoked.mp h
      · exact .inl ⟨old, hold, rfl, rfl, fun _ => rfl⟩
      · exact .inl ⟨row, hold, rfl, rfl, id⟩
  | manage hguard hauth hmanaged =>
    rw [hmanaged.refreshTokens] at h
    exact .inl ⟨row, h, rfl, rfl, id⟩

theorem traced (hlaw : sec.Lawful) (hclean : Clean s) {es : List (Event Token)}
    (hes : Along (Server.step sec settings) (Unforged sec) s es) : Traced sec settings s es := by
  induction es using List.reverseRecOn with
  | nil =>
    refine ⟨fun row hrow => ?_, fun token htoken => ?_⟩
    · rw [show after sec settings s [] = s from rfl, hclean.rows] at hrow
      cases hrow
    · rw [show after sec settings s [] = s from rfl, hclean.issued] at htoken
      cases htoken
  | append_singleton es e ih =>
    obtain ⟨hpre, hunforged, _⟩ := along_append.mp hes
    have htraced := ih hpre
    have hnext : after sec settings s (es ++ [e]) =
        (after sec settings s es).step sec settings e := run_append _ s es [e]
    constructor
    · intro row hrow
      rw [hnext] at hrow
      rcases rows_step hrow with ⟨old, hold, huser, hexpires, _⟩ | ⟨hsigns, hexpires⟩
      · obtain ⟨t, hsigned, ht⟩ := htraced.rows old hold
        rw [huser, hexpires]
        exact ⟨t, hsigned.append e, ht⟩
      · exact ⟨_, hsigns.signedInAt, hexpires⟩
    · rw [hnext]
      refine accounted_step hlaw htraced.tokens hunforged ?_ ?_ ?_
      · rintro userId issuedAt ⟨t, hsigned, hle⟩
        exact ⟨t, hsigned.append e, hle⟩
      · intro userId hsigns
        exact ⟨_, hsigns.signedInAt, Int.le_add_of_nonneg_right (seconds_nonneg _)⟩
      · -- a row that still refreshes has not expired
        intro row hrow hactive
        obtain ⟨t, hsigned, ht⟩ := htraced.rows row hrow
        refine ⟨t, hsigned.append e, ?_⟩
        rw [← ht]
        simp only [RefreshToken.isActive, Bool.and_eq_true, decide_eq_true_eq] at hactive
        exact Int.le_of_lt hactive.2

theorem authorized_of_admitted {current : CurrentUser} (h : Admitted sec s e current) :
    ∃ code, e.request.guard = some code ∧
      Authorized sec e.credentials code (s.clock e) s.db current := by
  obtain ⟨code, hguard, hok⟩ := h
  exact ⟨code, hguard, yields_authorize ((reads_authorize sec _ code _).yields_self hok)⟩

/-- In every run from a server that has handed nothing out, a request that is let through is made
for an active user who now has the permission it requires, and who gave the right password at
most the two lifetimes and a second earlier. -/
theorem admitted_signed_in (hlaw : sec.Lawful) {s₀ : Server Token} (hclean : Clean s₀)
    {es : List (Event Token)} (hes : Along (Server.step sec settings) (Unforged sec) s₀ es)
    (he : Unforged sec (after sec settings s₀ es) e) {current : CurrentUser}
    (hadmitted : Admitted sec (after sec settings s₀ es) e current) :
    current.user.isActive = true ∧
    (∀ code, e.request.guard = some (some code) → current.user.isSuperuser = true ∨
      code ∈ (after sec settings s₀ es).db.permissionCodes current.user.id) ∧
    ∃ t, SignedInAt sec settings s₀ es current.user.id t ∧
      (after sec settings s₀ es).clock e <
        t + seconds (settings.jwtRefreshTokenExpire + settings.jwtAccessTokenExpire + 1) := by
  obtain ⟨code, hguard, hauth⟩ := authorized_of_admitted hadmitted
  refine ⟨hauth.active, fun c hc => ?_, ?_⟩
  · have hallowed := hauth.allowed c (Option.some.inj (hguard.symm.trans hc))
    rw [CurrentUser.Lacks, not_and_or, Bool.not_eq_false, not_not] at hallowed
    rwa [(getWithPermissions_eq_some hauth.found).2.2] at hallowed
  · obtain ⟨issuedAt, ⟨t, hsigned, hle⟩, hlt⟩ :=
      accounted_of_authorized hlaw (traced hlaw hclean hes).tokens he hauth
    refine ⟨t, hsigned, ?_⟩
    unfold seconds at hle hlt ⊢
    push_cast at hle hlt ⊢
    grind

/-- The session of a user of the small server: a login, and a request with its access token. -/
def smallVisit (issuedAt : Instant) (elapsed : ℕ) : Event (Payload × Instant × Instant) where
  elapsed := elapsed
  credentials := some (createAccessToken openSecurity {} "2" issuedAt)
  request := .visit none

/-- The user the session is for. -/
def smallCurrent : CurrentUser where
  user :=
    ⟨2, "Ravi", "ravi@example.com", none, "argon2:second-password", true, false, none, none⟩
  roleNames := []
  permissionCodes := []

theorem unforged_smallLogin (s : Server (Payload × Instant × Instant))
    (email password jti : String) : Unforged openSecurity s (smallLogin email password jti) :=
  fun _ htoken => absurd htoken List.not_mem_nil

theorem admitted_signed_in_small :
    ∃ t, SignedInAt openSecurity {} smallServer
      [smallLogin "ravi@example.com" "second-password" "j"] 2 t ∧
        (900000000 : Instant) < t + seconds (1209600 + 900 + 1) := by
  have hlogin : Along (Server.step openSecurity {}) (Unforged openSecurity) smallServer
      [smallLogin "ravi@example.com" "second-password" "j"] :=
    ⟨unforged_smallLogin smallServer _ _ _, True.intro⟩
  have hvisit : Unforged openSecurity (after openSecurity {} smallServer
      [smallLogin "ravi@example.com" "second-password" "j"]) (smallVisit 1000000 899000000) := by
    intro token htoken _ _
    obtain rfl := List.mem_singleton.mp htoken
    decide
  have hadmitted : Admitted openSecurity (after openSecurity {} smallServer
      [smallLogin "ravi@example.com" "second-password" "j"]) (smallVisit 1000000 899000000)
      smallCurrent := ⟨none, rfl, rfl⟩
  exact (admitted_signed_in openSecurity_lawful ⟨rfl, rfl⟩ hlogin hvisit hadmitted).2.2

/-! ## Section 4: Logging out -/

theorem after_append (s : Server Token) (es es' : List (Event Token)) :
    after sec settings s (es ++ es') = after sec settings (after sec settings s es) es' :=
  run_append _ s es es'

/-- Time does not run backwards. -/
theorem now_le_after (s : Server Token) (es : List (Event Token)) :
    s.now ≤ (after sec settings s es).now := by
  refine run_rel (R := fun s s' : Server Token => s.now ≤ s'.now) (Server.step sec settings)
    (fun s => Int.le_refl _) (fun h h' => Int.le_trans h h') (fun s e => ?_) s es
  exact Int.le_add_of_nonneg_right (Int.natCast_nonneg _)

theorem RowsKept.trans {db db' db'' : AuthDb} (h : RowsKept db db') (h' : RowsKept db' db'') :
    RowsKept db db'' := by
  intro row hrow
  obtain ⟨row', hrow', hjti, huser, hexpires, hrevoked⟩ := h row hrow
  obtain ⟨row'', hrow'', hjti', huser', hexpires', hrevoked'⟩ := h' row' hrow'
  exact ⟨row'', hrow'', hjti'.trans hjti, huser'.trans huser, hexpires'.trans hexpires,
    hrevoked' ∘ hrevoked⟩

/-- Every run keeps the rows. -/
theorem rowsKept_after (sec : Security Token) (settings : Settings) (s : Server Token)
    (es : List (Event Token)) : RowsKept s.db (after sec settings s es).db :=
  run_rel (R := fun s s' : Server Token => RowsKept s.db s'.db) (Server.step sec settings)
    (fun _ => .of_eq rfl) (fun h h' => h.trans h') (rowsKept_step sec settings) s es

/-- A refresh token that could still be read when it was logged out is revoked for good. -/
theorem revoked_of_loggedOut (hlaw : sec.Lawful) {A : UUID → Instant → Prop}
    (haccounted : Accounted sec settings A s) (hunforged : Unforged sec s e) {token : Token}
    (hreq : e.request = .logout token) {db' : AuthDb}
    (hout : LoggedOut sec token (s.clock e) s.db db') (hkept : RowsKept s.db db')
    {payload : Payload} (hdecode : sec.decode (s.clock e) token = some payload) {jti : String}
    (hjti : payload.jti = some jti) (hne : jti ≠ "") :
    ∃ row ∈ db'.refreshTokens.rows, row.jti = jti ∧ row.revokedAt.isSome = true := by
  have hpresented : token ∈ e.presented := by
    rw [Event.presented, hreq]
    exact List.mem_append_right _ List.mem_cons_self
  cases haccounted token (hunforged token hpresented payload hdecode) with
  | access accounted =>
    rw [decode_accessToken hlaw] at hdecode
    split at hdecode
    · cases hdecode
    · obtain rfl := Option.some.inj hdecode
      cases hjti
  | @refresh row issuedAt hrow =>
    have hcopy := hdecode
    rw [decode_refreshToken hlaw] at hcopy
    split at hcopy
    · cases hcopy
    · obtain rfl := Option.some.inj hcopy
      obtain rfl := Option.some.inj hjti
      obtain ⟨row', hrow', hsame, _⟩ := hkept row hrow
      exact ⟨row', hrow', hsame, hout.revokedRow _ row.jti hdecode rfl hne row' hrow' hsame⟩

/-- A token that can be read can be read at any earlier time. -/
theorem decode_earlier (hlaw : sec.Lawful) {A : UUID → Instant → Prop} {db : AuthDb}
    {token : Token} (horigin : Origin sec settings A db token) {t now : Instant} (hle : t ≤ now)
    {payload : Payload} (hdecode : sec.decode now token = some payload) :
    sec.decode t token = some payload := by
  have hseconds : wholeSeconds t ≤ wholeSeconds now := Int.ediv_le_ediv (by decide) hle
  cases horigin with
  | access accounted =>
    rw [decode_accessToken hlaw] at hdecode ⊢
    split at hdecode
    · cases hdecode
    · rename_i hlive
      rw [if_neg fun hexpired => hlive (Int.lt_of_lt_of_le hexpired hseconds), hdecode]
  | refresh stored =>
    rw [decode_refreshToken hlaw] at hdecode ⊢
    split at hdecode
    · cases hdecode
    · rename_i hlive
      rw [if_neg fun hexpired => hlive (Int.lt_of_lt_of_le hexpired hseconds), hdecode]

/-- Once a logout with a token has been answered, no refresh with that token succeeds, whatever
happens in between. -/
theorem logged_out_for_good (hlaw : sec.Lawful) {s₀ : Server Token} (hclean : Clean s₀)
    {es es' : List (Event Token)} {e e' : Event Token}
    (hrun : Along (Server.step sec settings) (Unforged sec) s₀ (es ++ e :: es' ++ [e']))
    {token : Token} (hlogout : e.request = .logout token)
    (hanswer : ((after sec settings s₀ es).serve sec settings e).1 = .ok .done)
    (hrefresh : e'.request = .refresh token) :
    ∃ err, ((after sec settings s₀ (es ++ e :: es')).serve sec settings e').1 = .error err := by
  obtain ⟨hpre, hunforged', _⟩ := along_append.mp hrun
  obtain ⟨hes, hunforged, _⟩ := along_append.mp hpre
  have hsplit : after sec settings s₀ (es ++ e :: es') =
      after sec settings ((after sec settings s₀ es).step sec settings e) es' :=
    after_append s₀ es (e :: es')
  rcases (serve_refresh hrefresh).2 with herror | ⟨user, hfound, _⟩
  · exact herror
  · exfalso
    obtain ⟨payload, stored, hdecode, _, hjti, hne, hmem, hactive, _⟩ := hfound.token
    have hpresented : token ∈ e'.presented := by
      rw [Event.presented, hrefresh]
      exact List.mem_append_right _ List.mem_cons_self
    -- the token was readable at its logout already
    have hle : (after sec settings s₀ es).clock e ≤
        (after sec settings s₀ (es ++ e :: es')).clock e' := by
      rw [hsplit]
      exact Int.le_trans (now_le_after _ es') (Int.le_add_of_nonneg_right (Int.natCast_nonneg _))
    have hthen : sec.decode ((after sec settings s₀ es).clock e) token = some payload :=
      decode_earlier hlaw ((traced hlaw hclean hpre).tokens token
        (hunforged' token hpresented payload hdecode)) hle hdecode
    rcases serve_logout hlogout with ⟨err, herror, _⟩ | ⟨_, hout⟩
    · rw [hanswer] at herror
      cases herror
    · obtain ⟨row, hrow, hrowjti, hrevoked⟩ := revoked_of_loggedOut hlaw
        (traced hlaw hclean hes).tokens hunforged hlogout hout
        (rowsKept_step sec settings _ e) hthen hjti hne
      obtain ⟨row', hrow', hjti', _, _, hrevoked'⟩ := rowsKept_after sec settings
        ((after sec settings s₀ es).step sec settings e) es' row hrow
      -- the row the refresh found is the revoked one
      rw [hsplit] at hmem
      obtain rfl : stored = row' := Table.eq_of_shared_key _ (k := stored.jti) hmem hrow'
        List.mem_cons_self (by rw [← hrowjti, ← hjti']; exact List.mem_cons_self)
      have hset := hrevoked' hrevoked
      rw [RefreshToken.isActive, Bool.and_eq_true, Option.isNone_iff_eq_none] at hactive
      rw [hactive.1] at hset
      cases hset

/-- A request of the small server that presents the refresh token of the session. -/
def smallReturn (elapsed : ℕ)
    (request : Payload × Instant × Instant → Request (Payload × Instant × Instant)) :
    Event (Payload × Instant × Instant) where
  elapsed := elapsed
  credentials := some (createAccessToken openSecurity {} "2" 1000000)
  request := request (createRefreshToken openSecurity {} "2" "j" 1000000)

/-- What the session presents was handed out at its login. -/
theorem unforged_small {s : Server (Payload × Instant × Instant)}
    {e : Event (Payload × Instant × Instant)}
    (hpresented : ∀ token ∈ e.presented, token ∈ s.issued) : Unforged openSecurity s e :=
  fun token htoken _ _ => hpresented token htoken

theorem logged_out_for_good_small :
    ∃ err, ((after openSecurity {} smallServer
      [smallLogin "ravi@example.com" "second-password" "j", smallReturn 5000000 .logout]).serve
        openSecurity {} (smallReturn 5000000 .refresh)).1 = .error err := by
  have hrun : Along (Server.step openSecurity {}) (Unforged openSecurity) smallServer
      ([smallLogin "ravi@example.com" "second-password" "j"] ++ smallReturn 5000000 .logout :: []
        ++ [smallReturn 5000000 .refresh]) :=
    ⟨unforged_smallLogin smallServer _ _ _, unforged_small (by decide),
      unforged_small (by decide), True.intro⟩
  exact logged_out_for_good openSecurity_lawful ⟨rfl, rfl⟩ hrun rfl rfl rfl

/-! ## Section 5: Running out -/

/-- Nothing was handed out in the future. -/
theorem issued_past (hlaw : sec.Lawful) {s₀ : Server Token} (hclean : Clean s₀)
    {es : List (Event Token)} (hes : Along (Server.step sec settings) (Unforged sec) s₀ es) :
    Accounted sec settings (fun _ issuedAt => issuedAt ≤ (after sec settings s₀ es).now)
      (after sec settings s₀ es) := by
  induction es using List.reverseRecOn with
  | nil =>
    intro token htoken
    rw [show after sec settings s₀ [] = s₀ from rfl, hclean.issued] at htoken
    cases htoken
  | append_singleton es e ih =>
    obtain ⟨hpre, hunforged, _⟩ := along_append.mp hes
    have hnext : after sec settings s₀ (es ++ [e]) =
        (after sec settings s₀ es).step sec settings e := after_append s₀ es [e]
    rw [hnext]
    refine accounted_step hlaw (ih hpre) hunforged ?_ ?_ ?_
    · intro _ issuedAt hle
      exact Int.le_trans hle (Int.le_add_of_nonneg_right (Int.natCast_nonneg _))
    · exact fun _ _ => Int.le_refl _
    · exact fun _ _ _ => Int.le_refl _

/-- Every refresh token of the user is revoked or expired. -/
def SignedOut (s : Server Token) (userId : UUID) : Prop :=
  ∀ row ∈ s.db.refreshTokens.rows, row.userId = userId → row.isActive s.now = false

theorem isActive_eq_false {row : RefreshToken} {now : Instant} :
    row.isActive now = false ↔ row.revokedAt.isSome = true ∨ row.expiresAt ≤ now := by
  rw [RefreshToken.isActive, Bool.and_eq_false_iff, decide_eq_false_iff_not, Int.not_lt]
  cases row.revokedAt with
  | none => simp
  | some revokedAt => simp

/-- A user who does not sign in again stays signed out. -/
theorem SignedOut.step {userId : UUID} (h : SignedOut s userId)
    (hquiet : ¬ SignsIn sec s e userId) : SignedOut (s.step sec settings e) userId := by
  intro row hrow huser
  rcases rows_step hrow with ⟨old, hold, hsame, hexpires, hrevoked⟩ | ⟨hsigns, _⟩
  · have hout := isActive_eq_false.mp (h old hold (hsame.symm.trans huser))
    refine isActive_eq_false.mpr (hout.imp hrevoked fun hle => ?_)
    rw [hexpires]
    exact Int.le_trans hle (Int.le_add_of_nonneg_right (Int.natCast_nonneg _))
  · exact absurd (huser ▸ hsigns) hquiet

/-- A state from which the user's last access token is running out. -/
structure RunningOut (sec : Security Token) (settings : Settings) (userId : UUID) (t : Instant)
    (s : Server Token) : Prop where
  signedOut : SignedOut s userId
  tokens : Accounted sec settings (fun v issuedAt => v = userId → issuedAt ≤ t) s

theorem RunningOut.step (hlaw : sec.Lawful) {userId : UUID} {t : Instant}
    (h : RunningOut sec settings userId t s)
    (he : Unforged sec s e ∧ ¬ SignsIn sec s e userId) :
    RunningOut sec settings userId t (s.step sec settings e) := by
  refine ⟨h.signedOut.step he.2, accounted_step hlaw h.tokens he.1 (fun _ _ => id) ?_ ?_⟩
  · intro v hsigns hv
    exact absurd (hv ▸ hsigns) he.2
  · -- no row of the user refreshes any more
    intro row hrow hactive huser
    have hout := isActive_eq_false.mp (h.signedOut row hrow huser)
    have hlater : row.isActive (s.clock e) = false := isActive_eq_false.mpr
      (hout.imp id fun hle =>
        Int.le_trans hle (Int.le_add_of_nonneg_right (Int.natCast_nonneg _)))
    rw [hactive] at hlater
    cases hlater

/-- From the moment on that no refresh token of a user is active, and as long as nobody signs in as
that user again, the user is let through for no longer than the lifetime of an access token. -/
theorem signed_out (hlaw : sec.Lawful) {s₀ : Server Token} (hclean : Clean s₀)
    {es es' : List (Event Token)}
    (hrun : Along (Server.step sec settings) (Unforged sec) s₀ (es ++ es' ++ [e]))
    {current : CurrentUser} (hout : SignedOut (after sec settings s₀ es) current.user.id)
    (hquiet : Along (Server.step sec settings) (fun s e => ¬ SignsIn sec s e current.user.id)
      (after sec settings s₀ es) es')
    (hadmitted : Admitted sec (after sec settings s₀ (es ++ es')) e current) :
    (after sec settings s₀ (es ++ es')).clock e <
      (after sec settings s₀ es).now + seconds (settings.jwtAccessTokenExpire + 1) := by
  obtain ⟨hpre, hunforged, _⟩ := along_append.mp hrun
  obtain ⟨hes, hes'⟩ := along_append.mp hpre
  have hstart : RunningOut sec settings current.user.id (after sec settings s₀ es).now
      (after sec settings s₀ es) :=
    ⟨hout, fun token htoken => (issued_past hlaw hclean hes token htoken).mono
      (fun _ _ hle _ => hle) (.of_eq rfl)⟩
  have hend : RunningOut sec settings current.user.id (after sec settings s₀ es).now
      (after sec settings s₀ (es ++ es')) := by
    rw [after_append]
    exact (throughout_of_along (fun _ _ h he => h.step hlaw he) hstart (hes'.and hquiet)).final
  obtain ⟨code, _, hauth⟩ := authorized_of_admitted hadmitted
  obtain ⟨issuedAt, hle, hlt⟩ := accounted_of_authorized hlaw hend.tokens hunforged hauth
  exact Int.lt_of_lt_of_le hlt (Int.add_le_add_right (hle rfl) _)

theorem signed_out_small :
    (900000000 : Instant) < 6000000 + seconds (900 + 1) := by
  have hrun : Along (Server.step openSecurity {}) (Unforged openSecurity) smallServer
      ([smallLogin "ravi@example.com" "second-password" "j", smallReturn 5000000 .logout] ++ []
        ++ [smallVisit 1000000 894000000]) :=
    ⟨unforged_smallLogin smallServer _ _ _, unforged_small (by decide),
      unforged_small (by decide), True.intro⟩
  have hout : SignedOut (after openSecurity {} smallServer
      [smallLogin "ravi@example.com" "second-password" "j", smallReturn 5000000 .logout])
        smallCurrent.user.id := by
    unfold SignedOut
    decide
  have hadmitted : Admitted openSecurity (after openSecurity {} smallServer
      ([smallLogin "ravi@example.com" "second-password" "j", smallReturn 5000000 .logout] ++ []))
        (smallVisit 1000000 894000000) smallCurrent := ⟨none, rfl, rfl⟩
  exact signed_out openSecurity_lawful ⟨rfl, rfl⟩ hrun hout True.intro hadmitted

end AyushOms.Auth
