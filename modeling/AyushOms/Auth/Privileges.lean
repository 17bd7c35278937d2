import AyushOms.Auth.Grants
import AyushOms.Auth.Sessions

/-!
# Privileges

Who can change who may do what. Roles and accounts are written by the administrative endpoints
only, and those ask for `users.manage` or `roles.manage`; no endpoint writes `is_superuser`, a
password or an email.

## Main results

- `first_change_by_manager`: the first change of accounts or roles in a run is made by somebody
  who could manage them from the start
- `no_superuser_made`: no run makes a superuser or changes a password
- `deactivated_locked_out`: a deactivated user is refused at once, until reactivated
-/

namespace AyushOms.Auth

open AyushOms.Lib

variable {Token : Type} {sec : Security Token} {settings : Settings} {s : Server Token}
  {e : Event Token}

/-! ## Section 1: What decides access -/

/-- Accounts, roles and permissions are the same. -/
def SameAccess (db db' : AuthDb) : Prop :=
  db' = { db with refreshTokens := db'.refreshTokens }

theorem SameAccess.refl (db : AuthDb) : SameAccess db db := rfl

theorem SameAccess.trans {db db' db'' : AuthDb} (h : SameAccess db db')
    (h' : SameAccess db' db'') : SameAccess db db'' := by
  rw [SameAccess] at h h' ⊢
  rw [h', h]

theorem SameAccess.users {db db' : AuthDb} (h : SameAccess db db') : db'.users = db.users := by
  rw [SameAccess] at h
  rw [h]

theorem SameAccess.permissionCodes {db db' : AuthDb} (h : SameAccess db db') (v : UUID) :
    db'.permissionCodes v = db.permissionCodes v := by
  rw [SameAccess] at h
  rw [h]
  rfl

/-- The user may manage accounts or roles. -/
structure MayManage (db : AuthDb) (code : String) (user : User) : Prop where
  member : user ∈ db.users.rows
  active : user.isActive = true
  manages : code = "users.manage" ∨ code = "roles.manage"
  allowed : user.isSuperuser = true ∨ code ∈ db.permissionCodes user.id

theorem mayManage_of_authorized {credentials : Option Token} {code : String} {now : Instant}
    {db : AuthDb} {current : CurrentUser} {request : Request Token}
    (hguard : request.guard = some (some code)) {db' : AuthDb}
    (hmanaged : Managed sec db request db')
    (hauth : Authorized sec credentials (some code) now db current) :
    MayManage db code current.user := by
  have hallowed := hauth.allowed code rfl
  obtain ⟨hfound, _, hcodes⟩ := getWithPermissions_eq_some hauth.found
  rw [CurrentUser.Lacks, not_and_or, Bool.not_eq_false, not_not, hcodes] at hallowed
  refine ⟨mem_of_getUser hfound, hauth.active, ?_, hallowed⟩
  cases request with
  | login _ _ _ | refresh _ | logout _ | visit _ => exact hmanaged.elim
  | createUser _ | updateUser _ _ | deactivateUser _ =>
    exact .inl (Option.some.inj (Option.some.inj hguard)).symm
  | createRole _ | updateRole _ _ => exact .inr (Option.some.inj (Option.some.inj hguard)).symm

/-- The request is an administrative one, let through as a user who may make it. -/
structure MadeBy (sec : Security Token) (s : Server Token) (e : Event Token) (db : AuthDb)
    (current : CurrentUser) : Prop where
  admitted : ∃ code, e.request.guard = some (some code) ∧
    Authorized sec e.credentials (some code) (s.clock e) s.db current ∧
    MayManage db code current.user

/-- One request leaves accounts and roles alone, unless somebody who may manage them made it. -/
theorem sameAccess_step (sec : Security Token) (settings : Settings) (s : Server Token)
    (e : Event Token) : SameAccess s.db (s.step sec settings e).db ∨
      ∃ current, MadeBy sec s e s.db current := by
  obtain ⟨db', tokens, heffect, hstep⟩ := step_effect sec settings s e
  rw [hstep]
  cases heffect with
  | idle => exact .inl rfl
  | login hreq hfound =>
    obtain ⟨table, _, rfl⟩ := hfound.inserted
    exact .inl rfl
  | refresh hreq hfound => exact .inl rfl
  | logout hreq hfound =>
    rcases hfound.tables with rfl | ⟨jti, rfl⟩
    · exact .inl rfl
    · exact .inl rfl
  | manage hguard hauth hmanaged =>
    exact .inr ⟨_, _, hguard, hauth, mayManage_of_authorized hguard hmanaged hauth⟩

/-- When a run has changed an account, a role or what a role grants, the first request that did so
was made by a user who could manage them in the state the run began with. -/
theorem first_change_by_manager (sec : Security Token) (settings : Settings)
    (s : Server Token) (es : List (Event Token))
    (hchanged : ¬ SameAccess s.db (after sec settings s es).db) :
    ∃ pre e post current, es = pre ++ e :: post ∧
      SameAccess s.db (after sec settings s pre).db ∧
      ¬ SameAccess s.db (after sec settings s (pre ++ [e])).db ∧
      MadeBy sec (after sec settings s pre) e s.db current := by
  induction es using List.reverseRecOn with
  | nil => exact absurd (SameAccess.refl s.db) hchanged
  | append_singleton es e ih =>
    by_cases hsame : SameAccess s.db (after sec settings s es).db
    · rcases sameAccess_step sec settings (after sec settings s es) e with hstep | hmanager
      · rw [after_append] at hchanged
        exact absurd (hsame.trans hstep) hchanged
      · -- up to here nothing has changed, so the user could do this from the start
        obtain ⟨current, code, hguard, hauth, hmay⟩ := hmanager
        refine ⟨es, e, [], current, rfl, hsame, hchanged, code, hguard, hauth, ?_, hmay.active,
          hmay.manages, ?_⟩
        · rw [← hsame.users]
          exact hmay.member
        · rw [← hsame.permissionCodes]
          exact hmay.allowed
    · obtain ⟨pre, e', post, current, rfl, hrest⟩ := ih hsame
      exact ⟨pre, e', post ++ [e], current, by rw [List.append_assoc, List.cons_append], hrest⟩

/-- The administrator of the small server takes a user's account away. -/
def smallDeactivation : List (Event (Payload × Instant × Instant)) :=
  [smallLogin "asha@example.com" "first-password" "j",
    { elapsed := 1000000
      credentials := some (createAccessToken openSecurity {} "1" 1000000)
      request := .deactivateUser 2 }]

theorem first_change_by_manager_small :
    ∃ pre e post current, smallDeactivation = pre ++ e :: post ∧
      SameAccess smallServer.db (after openSecurity {} smallServer pre).db ∧
      ¬ SameAccess smallServer.db (after openSecurity {} smallServer (pre ++ [e])).db ∧
      MadeBy openSecurity (after openSecurity {} smallServer pre) e smallServer.db current := by
  refine first_change_by_manager openSecurity {} smallServer smallDeactivation fun hsame => ?_
  have hrows := congrArg Table.rows hsame.users
  exact absurd hrows (by decide)

/-! ## Section 2: What no request writes -/

/-- The columns of an account that no endpoint writes. -/
structure SameIdentity (old new : User) : Prop where
  id : new.id = old.id
  email : new.email = old.email
  passwordHash : new.passwordHash = old.passwordHash
  isSuperuser : new.isSuperuser = old.isSuperuser

theorem SameIdentity.refl (user : User) : SameIdentity user user := ⟨rfl, rfl, rfl, rfl⟩

theorem SameIdentity.trans {u u' u'' : User} (h : SameIdentity u u') (h' : SameIdentity u' u'') :
    SameIdentity u u'' :=
  ⟨h'.id.trans h.id, h'.email.trans h.email, h'.passwordHash.trans h.passwordHash,
    h'.isSuperuser.trans h.isSuperuser⟩

theorem UserFields.sameIdentity (fields : UserFields) (user : User) :
    SameIdentity user (fields.set user) :=
  ⟨rfl, rfl, rfl, rfl⟩

/-- Every account is still there, and a superuser was one before. -/
structure AccountsKept (db db' : AuthDb) : Prop where
  kept : ∀ old ∈ db.users.rows, ∃ new ∈ db'.users.rows, SameIdentity old new
  superusers : ∀ new ∈ db'.users.rows, new.isSuperuser = true →
    ∃ old ∈ db.users.rows, SameIdentity old new

theorem AccountsKept.of_eq {db db' : AuthDb} (h : db'.users = db.users) : AccountsKept db db' := by
  constructor
  · exact fun old hold => ⟨old, h ▸ hold, .refl old⟩
  · exact fun new hnew _ => ⟨new, h ▸ hnew, .refl new⟩

theorem AccountsKept.trans {db db' db'' : AuthDb} (h : AccountsKept db db')
    (h' : AccountsKept db' db'') : AccountsKept db db'' := by
  constructor
  · intro old hold
    obtain ⟨mid, hmid, hsame⟩ := h.kept old hold
    obtain ⟨new, hnew, hsame'⟩ := h'.kept mid hmid
    exact ⟨new, hnew, hsame.trans hsame'⟩
  · intro new hnew hsuper
    obtain ⟨mid, hmid, hsame'⟩ := h'.superusers new hnew hsuper
    obtain ⟨old, hold, hsame⟩ := h.superusers mid hmid (hsame'.isSuperuser ▸ hsuper)
    exact ⟨old, hold, hsame.trans hsame'⟩

theorem users_synced_userRoles {owner : UUID} {db db' : AuthDb} {members : List UUID}
    (h : Synced userRoleLinks owner members db db') : db'.users = db.users := by
  obtain ⟨_, table, _, rfl⟩ := synced_userRoles.mp h
  rfl

theorem users_synced_rolePermissions {owner : UUID} {db db' : AuthDb} {members : List UUID}
    (h : Synced rolePermissionLinks owner members db db') : db'.users = db.users := by
  obtain ⟨_, table, _, rfl⟩ := synced_rolePermissions.mp h
  rfl

theorem RoleAdded.users {c : RoleCreate} {db db' : AuthDb} (h : RoleAdded c db db') :
    db'.users = db.users := by
  obtain ⟨roles, _, hsynced⟩ := h.written
  exact (users_synced_rolePermissions hsynced).trans rfl

theorem RoleChanged.users {id : UUID} {c : RoleUpdate} {db db' : AuthDb}
    (h : RoleChanged id c db db') : db'.users = db.users := by
  have hdescribed : (setDescription db id c.description).users = db.users := by
    cases c.description with
    | none => rfl
    | some description => rfl
  have hwritten := h.written
  cases hpermissions : c.permissionIds with
  | none =>
    rw [hpermissions] at hwritten
    exact (congrArg AuthDb.users hwritten).trans hdescribed
  | some permissionIds =>
    rw [hpermissions] at hwritten
    exact (users_synced_rolePermissions hwritten).trans hdescribed

/-- A new account is no superuser. -/
theorem UserAdded.accountsKept {c : UserCreate} {db db' : AuthDb} (h : UserAdded sec c db db') :
    AccountsKept db db' := by
  obtain ⟨users, hinsert, hsynced⟩ := h.written
  have hrows : db'.users.rows = db.users.rows ++ [UserService.newUser sec c] := by
    rw [users_synced_userRoles hsynced]
    exact Table.rows_of_insert? hinsert
  constructor
  · intro old hold
    exact ⟨old, by rw [hrows]; exact List.mem_append_left _ hold, .refl old⟩
  · intro new hnew hsuper
    rw [hrows] at hnew
    rcases List.mem_append.mp hnew with hold | hadded
    · exact ⟨new, hold, .refl new⟩
    · rw [List.mem_singleton.mp hadded] at hsuper
      cases hsuper

theorem accountsKept_setFields (db : AuthDb) (id : UUID) (fields : UserFields) :
    AccountsKept db (setFields db id fields) := by
  constructor
  · intro old hold
    by_cases hid : (old.id == id) = true
    · exact ⟨fields.set old, Table.mem_modify.mpr ⟨old, hold, .inl ⟨hid, rfl⟩⟩,
        fields.sameIdentity old⟩
    · exact ⟨old, Table.mem_modify.mpr ⟨old, hold, .inr ⟨hid, rfl⟩⟩, .refl old⟩
  · intro new hnew _
    obtain ⟨old, hold, ⟨_, rfl⟩ | ⟨_, rfl⟩⟩ := Table.mem_modify.mp hnew
    · exact ⟨old, hold, fields.sameIdentity old⟩
    · exact ⟨new, hold, .refl new⟩

theorem UserChanged.accountsKept {id : UUID} {c : UserUpdate} {db db' : AuthDb}
    (h : UserChanged id c db db') : AccountsKept db db' :=
  (accountsKept_setFields db id c.fields).trans (.of_eq h.replaced.users)

theorem Managed.accountsKept {db db' : AuthDb} {request : Request Token}
    (h : Managed sec db request db') : AccountsKept db db' := by
  cases request with
  | login _ _ _ | refresh _ | logout _ | visit _ => exact h.elim
  | createUser c => exact UserAdded.accountsKept h
  | updateUser id c => exact UserChanged.accountsKept h
  | deactivateUser id => exact UserChanged.accountsKept h
  | createRole c => exact .of_eq (RoleAdded.users h)
  | updateRole id c => exact .of_eq (RoleChanged.users h)

theorem accountsKept_step (sec : Security Token) (settings : Settings) (s : Server Token)
    (e : Event Token) : AccountsKept s.db (s.step sec settings e).db := by
  obtain ⟨db', tokens, heffect, hstep⟩ := step_effect sec settings s e
  rw [hstep]
  cases heffect with
  | idle => exact .of_eq rfl
  | login hreq hfound =>
    obtain ⟨table, _, rfl⟩ := hfound.inserted
    exact .of_eq rfl
  | refresh hreq hfound => exact .of_eq rfl
  | logout hreq hfound =>
    rcases hfound.tables with rfl | ⟨jti, rfl⟩
    · exact .of_eq rfl
    · exact .of_eq rfl
  | manage hguard hauth hmanaged => exact hmanaged.accountsKept

/-- Whatever is requested, by whomever, every account keeps its email, its password and whether it
is a superuser, and no account that was not one before is a superuser afterwards. -/
theorem no_superuser_made (sec : Security Token) (settings : Settings) (s : Server Token)
    (es : List (Event Token)) : AccountsKept s.db (after sec settings s es).db :=
  run_rel (R := fun s s' : Server Token => AccountsKept s.db s'.db) (Server.step sec settings)
    (fun _ => .of_eq rfl) (fun h h' => h.trans h') (accountsKept_step sec settings) s es

/-! ## Section 3: Deactivation -/

/-- The account exists and is not active. -/
def Inactive (db : AuthDb) (userId : UUID) : Prop :=
  ∃ user, db.getUser userId = some user ∧ user.isActive = false

/-- The request would make the account active again. -/
def Reactivates (userId : UUID) (request : Request Token) : Prop :=
  ∃ c, request = .updateUser userId c ∧ c.isActive = some true

theorem Inactive.of_users {db db' : AuthDb} {userId : UUID} (h : Inactive db userId)
    (husers : db'.users = db.users) : Inactive db' userId := by
  obtain ⟨user, hfound, hinactive⟩ := h
  refine ⟨user, ?_, hinactive⟩
  rw [AuthDb.getUser, husers]
  exact hfound

theorem Inactive.setFields {db : AuthDb} {userId id : UUID} {fields : UserFields}
    (h : Inactive db userId) (hquiet : id = userId → fields.isActive ≠ some true) :
    Inactive (setFields db id fields) userId := by
  obtain ⟨user, hfound, hinactive⟩ := h
  refine ⟨_, by rw [getUser_setFields, hfound]; rfl, ?_⟩
  show (if (user.id == id) = true then fields.set user else user).isActive = false
  split
  · rename_i hid
    show fields.isActive.getD user.isActive = false
    have hne := hquiet ((eq_of_beq hid).symm.trans (id_of_getUser hfound))
    cases hset : fields.isActive with
    | none => exact hinactive
    | some active =>
      cases active with
      | false => rfl
      | true => exact absurd hset hne
  · exact hinactive

theorem Inactive.userChanged {db db' : AuthDb} {userId id : UUID} {c : UserUpdate}
    (h : Inactive db userId) (hchanged : UserChanged id c db db')
    (hquiet : id = userId → c.isActive ≠ some true) : Inactive db' userId := by
  have hset : Inactive (AyushOms.Auth.setFields db id c.fields) userId :=
    Inactive.setFields h hquiet
  exact hset.of_users hchanged.replaced.users

theorem Inactive.managed {db db' : AuthDb} {userId : UUID} {request : Request Token}
    (h : Inactive db userId) (hmanaged : Managed sec db request db')
    (hquiet : ¬ Reactivates userId request) : Inactive db' userId := by
  cases request with
  | login _ _ _ | refresh _ | logout _ | visit _ => exact hmanaged.elim
  | createUser c =>
    obtain ⟨users, hinsert, hsynced⟩ := UserAdded.written hmanaged
    obtain ⟨user, hfound, hinactive⟩ := h
    have hadded : Inactive { db with users := users } userId := by
      refine ⟨user, ?_, hinactive⟩
      -- the new row comes after the one that is found
      show users.rows.find? _ = some user
      rw [Table.rows_of_insert? hinsert, List.find?_append,
        show db.users.rows.find? (fun u => u.id == userId) = some user from hfound]
      rfl
    exact hadded.of_users (users_synced_userRoles hsynced)
  | updateUser id c =>
    exact h.userChanged hmanaged fun hid hactive => hquiet ⟨c, hid ▸ rfl, hactive⟩
  | deactivateUser id => exact h.userChanged hmanaged fun _ hactive => nomatch hactive
  | createRole c => exact h.of_users (RoleAdded.users hmanaged)
  | updateRole id c => exact h.of_users (RoleChanged.users hmanaged)

/-- The request reactivates the account and is let through. -/
def LetBackIn (sec : Security Token) (s : Server Token) (e : Event Token) (userId : UUID) : Prop :=
  Reactivates userId e.request ∧ ∃ current, MadeBy sec s e s.db current

theorem Inactive.step {userId : UUID} (h : Inactive s.db userId)
    (hquiet : ¬ LetBackIn sec s e userId) : Inactive (s.step sec settings e).db userId := by
  obtain ⟨db', tokens, heffect, hstep⟩ := step_effect sec settings s e
  rw [hstep]
  cases heffect with
  | idle => exact h
  | login hreq hfound =>
    obtain ⟨table, _, rfl⟩ := hfound.inserted
    exact h.of_users rfl
  | refresh hreq hfound => exact h
  | logout hreq hfound =>
    rcases hfound.tables with rfl | ⟨jti, rfl⟩
    · exact h
    · exact h.of_users rfl
  | manage hguard hauth hmanaged =>
    refine h.managed hmanaged fun hreactivates => hquiet ⟨hreactivates, _, _, hguard, hauth, ?_⟩
    exact mayManage_of_authorized hguard hmanaged hauth

/-- From the moment a user is inactive, and until a request with `users.manage` makes the user
active again, no request is let through as that user, no login succeeds for that user and no
refresh hands out a token for that user, however many tokens are outstanding. -/
theorem deactivated_locked_out {userId : UUID} (hinactive : Inactive s.db userId)
    {es : List (Event Token)}
    (hquiet : Along (Server.step sec settings) (fun s e => ¬ LetBackIn sec s e userId) s es)
    (e : Event Token) :
    (∀ current, Admitted sec (after sec settings s es) e current → current.user.id ≠ userId) ∧
    ¬ SignsIn sec (after sec settings s es) e userId ∧
    ∀ token user, Refreshed sec token ((after sec settings s es).clock e)
      (after sec settings s es).db user → user.id ≠ userId := by
  have hall : Throughout (Server.step sec settings) (fun s => Inactive s.db userId) s es :=
    throughout_of_along (fun _ _ h he => h.step he) hinactive hquiet
  have hlast : Inactive (after sec settings s es).db userId := hall.final
  obtain ⟨user, hfound, hflag⟩ := hlast
  -- an active row under this id would be the inactive one
  have habsurd : ∀ other : User, (after sec settings s es).db.getUser other.id = some other →
      other.isActive = true → other.id ≠ userId := by
    intro other hother hactive hid
    rw [hid, hfound] at hother
    obtain rfl := Option.some.inj hother
    rw [hflag] at hactive
    cases hactive
  refine ⟨fun current hadmitted => ?_, ?_, fun token other hrefreshed => ?_⟩
  · obtain ⟨code, _, hauth⟩ := authorized_of_admitted hadmitted
    exact habsurd _ (getWithPermissions_eq_some hauth.found).1 hauth.active
  · rintro ⟨email, password, jti, other, _, hcredentials, hactive, hid⟩
    have hmem : other ∈ (after sec settings s es).db.users.rows :=
      Table.mem_of_find?_eq_some hcredentials.found
    exact habsurd other (getUser_of_mem hmem) hactive hid
  · exact habsurd other hrefreshed.found hrefreshed.active

theorem deactivated_locked_out_small :
    ¬ SignsIn openSecurity (after openSecurity {} (after openSecurity {} smallServer
      smallDeactivation) [smallLogin "ravi@example.com" "second-password" "j"])
      (smallLogin "ravi@example.com" "second-password" "k") 2 := by
  have hinactive : Inactive (after openSecurity {} smallServer smallDeactivation).db 2 :=
    ⟨_, rfl, rfl⟩
  have hquiet : Along (Server.step openSecurity {}) (fun s e => ¬ LetBackIn openSecurity s e 2)
      (after openSecurity {} smallServer smallDeactivation)
      [smallLogin "ravi@example.com" "second-password" "j"] := by
    refine ⟨?_, True.intro⟩
    rintro ⟨⟨_, hrequest, _⟩, _⟩
    cases hrequest
  exact (deactivated_locked_out hinactive hquiet _).2.1

end AyushOms.Auth
