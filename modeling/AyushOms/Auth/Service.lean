import AyushOms.Auth.Model

/-!
# Signing In, Access and Accounts

`AuthService`, the dependencies `get_current_user` and `require_permission`, `UserService` and
`RBACService`, statement by statement. Each request has one session: the dependency reads
through it first, and the endpoint's service goes on in it.
-/

namespace AyushOms.Auth

open AyushOms.Lib

variable {Token : Type} (sec : Security Token) (settings : Settings)

/-! ## Section 1: Tokens -/

/-- `_create_token`. -/
def createToken (subject : String) (tokenType : TokenType) (expiresDelta : Instant)
    (jti : Option String) (now : Instant) : Token :=
  sec.encode ⟨some subject, some tokenType.value, jti⟩ now (now + expiresDelta)

/-- `create_access_token`. -/
def createAccessToken (subject : String) (now : Instant) : Token :=
  createToken sec subject .access (seconds settings.jwtAccessTokenExpire) none now

/-- `create_refresh_token`, with the `str(uuid.uuid4())` it draws. -/
def createRefreshToken (subject jti : String) (now : Instant) : Token :=
  createToken sec subject .refresh (seconds settings.jwtRefreshTokenExpire) (some jti) now

/-! ## Section 2: `AuthService` -/

/-- `TokenResponse`. -/
structure Tokens (Token : Type) where
  accessToken : Token
  refreshToken : Token
  deriving DecidableEq, Repr

/-- The user whose email and password these are. -/
def credentialsOf (email password : String) (db : AuthDb) : Option User :=
  (db.getByEmail email).filter fun user => sec.verifyPassword password user.passwordHash

namespace AuthService

/-- `login` up to its commit. -/
def startSession (email password jti : String) (now : Instant) : AuthTxn (Tokens Token) := do
  let user ← Txn.select (credentialsOf sec email password)
  let user ← Txn.orRaise user (.authentication "Invalid email or password.")
  Txn.raiseIf (user.isActive = false) (.authentication "Account is deactivated.")
  Txn.flush (.insertRefreshToken
    { jti := jti, userId := user.id
      expiresAt := now + seconds settings.jwtRefreshTokenExpire })
  return {
    accessToken := createAccessToken sec settings (sec.strUuid user.id) now
    refreshToken := createRefreshToken sec settings (sec.strUuid user.id) jti now }

/-- `AuthService.login`. -/
def login (email password jti : String) (now : Instant) : AuthTxn (Tokens Token) :=
  Txn.thenCommit (startSession sec settings email password jti now)

/-- `await self.refresh_tokens.get_by_jti(jti) if jti else None`. -/
def storedToken (jti : Option String) (db : AuthDb) : Option RefreshToken :=
  (pyOr jti none).bind db.getByJti

/-- `uuid.UUID(payload["sub"])`. -/
def subjectOf (payload : Payload) : Except AuthError UUID :=
  match payload.sub with
  | none => .error (.raised (.keyError "sub"))
  | some sub =>
    match sec.parseUuid sub with
    | none => .error (.raised (.other "badly formed hexadecimal UUID string"))
    | some id => .ok id

/-- `AuthService.refresh`. -/
def refresh (refreshToken : Token) (now : Instant) : AuthTxn Token := do
  let payload ← Txn.orRaise (sec.decode now refreshToken)
    (.authentication "Invalid or expired refresh token.")
  Txn.raiseIf (payload.type ≠ some TokenType.refresh.value)
    (.authentication "Refresh token required.")
  let stored ← Txn.select (storedToken payload.jti)
  let _ ← Txn.orRaise (stored.filter fun token => token.isActive now)
    (.authentication "Refresh token has been revoked or expired.")
  let userId ← Txn.ofExcept (subjectOf sec payload)
  let user ← Txn.select fun db => db.getUser userId
  let user ← Txn.orRaise (user.filter fun user => user.isActive)
    (.authentication "User not found or inactive.")
  return createAccessToken sec settings (sec.strUuid user.id) now

/-- `AuthService.logout`. -/
def logout (refreshToken : Token) (now : Instant) : AuthTxn PUnit :=
  -- a token that cannot be used any more needs no revocation
  match (sec.decode now refreshToken).bind fun payload => pyOr payload.jti none with
  | none => pure ⟨⟩
  | some jti => do
    let stored ← Txn.select fun db => db.getByJti jti
    match stored.filter fun token => token.revokedAt.isNone with
    | none => pure ⟨⟩
    | some token => Txn.thenCommit (Txn.flush (.revokeRefreshToken token.jti now))

end AuthService

/-! ## Section 3: Dependencies -/

/-- The user of a request, with what the eager loads bring along. -/
structure CurrentUser where
  user : User
  roleNames : List String
  permissionCodes : List String

/-- `UserRepository.get_with_permissions`. -/
def getWithPermissions (id : UUID) (db : AuthDb) : Option CurrentUser :=
  (db.getUser id).map fun user => ⟨user, db.roleNames user.id, db.permissionCodes user.id⟩

/-- `get_current_user`. -/
def getCurrentUser (credentials : Option Token) (now : Instant) : AuthTxn CurrentUser := do
  let token ← Txn.orRaise credentials (.authentication "Missing bearer token.")
  let payload ← Txn.orRaise (sec.decode now token) (.authentication "Invalid or expired token.")
  Txn.raiseIf (payload.type ≠ some TokenType.access.value)
    (.authentication "Access token required.")
  let userId ← Txn.orRaise (payload.sub.bind sec.parseUuid)
    (.authentication "Invalid token subject.")
  let user ← Txn.select (getWithPermissions userId)
  Txn.orRaise (user.filter fun current => current.user.isActive)
    (.authentication "User not found or inactive.")

/-- `not current_user.is_superuser and code not in current_user.permission_codes`. -/
def CurrentUser.Lacks (current : CurrentUser) (code : String) : Prop :=
  current.user.isSuperuser = false ∧ code ∉ current.permissionCodes

instance (current : CurrentUser) (code : String) : Decidable (current.Lacks code) :=
  inferInstanceAs (Decidable (_ ∧ _))

/-- `require_permission(code)`, or `get_current_user` where an endpoint asks for no more. -/
def authorize (credentials : Option Token) (code : Option String) (now : Instant) :
    AuthTxn CurrentUser := do
  let current ← getCurrentUser sec credentials now
  match code with
  | none => return current
  | some code =>
    Txn.raiseIf (current.Lacks code) (.authorization s!"Missing required permission: {code}")
    return current

/-! ## Section 4: Join tables -/

/-- The rows of one owner in a join table: how they are read, deleted and inserted, what they
link to, and what a missing member is reported as. -/
structure Links (Row : Type) where
  rowsOf : UUID → AuthDb → List Row
  delete : List Row → AuthWrite
  insert : List Row → AuthWrite
  link : UUID → UUID → Row
  known : UUID → AuthDb → Bool
  missing : UUID → String

/-- The lookups of the loop. -/
def checkMembers {Row : Type} (links : Links Row) : List UUID → AuthTxn PUnit
  | [] => pure ⟨⟩
  | member :: members => do
    let known ← Txn.select (links.known member)
    Txn.raiseIf (known = false) (.notFound (links.missing member))
    checkMembers links members

/-- The rows of an owner are deleted, and a row for every member is added. The session does not
flush by itself, so the new rows are sent together. -/
def syncLinks {Row : Type} (links : Links Row) (owner : UUID) (members : List UUID) :
    AuthTxn PUnit := do
  let existing ← Txn.select (links.rowsOf owner)
  Txn.flush (links.delete existing)
  checkMembers links members
  Txn.flush (links.insert (members.map (links.link owner)))

/-- `user_roles`. -/
def userRoleLinks : Links UserRole where
  rowsOf userId db := db.rolesOf userId
  delete := .deleteUserRoles
  insert := .insertUserRoles
  link userId roleId := ⟨userId, roleId⟩
  known roleId db := (db.getRole roleId).isSome
  missing roleId := s!"Role {roleId} not found."

/-- `role_permissions`. -/
def rolePermissionLinks : Links RolePermission where
  rowsOf roleId db := db.permissionsOf roleId
  delete := .deleteRolePermissions
  insert := .insertRolePermissions
  link roleId permissionId := ⟨roleId, permissionId⟩
  known permissionId db := (db.getPermission permissionId).isSome
  missing permissionId := s!"Permission {permissionId} not found."

/-! ## Section 5: `UserService` -/

/-- The arguments of `create_user`, with the id its row is given. -/
structure UserCreate where
  id : UUID
  name : String
  email : String
  phone : Option String := none
  password : String
  roleIds : List UUID := []
  teamLeaderId : Option UUID := none
  shipmentStaffId : Option UUID := none
  deriving DecidableEq, Repr

/-- The arguments of `update_user`. -/
structure UserUpdate where
  name : Option String := none
  phone : Option String := none
  isActive : Option Bool := none
  roleIds : Option (List UUID) := none
  teamLeaderId : Option UUID := none
  clearTeamLeader : Bool := false
  shipmentStaffId : Option UUID := none
  clearShipmentStaff : Bool := false
  deriving DecidableEq, Repr

/-- The user that an update leaves responsible: cleared, replaced, or as it was. -/
def reassigned (clear : Bool) (id : Option UUID) : Option (Option UUID) :=
  if clear then some none else id.map some

/-- The `fields` of `update_user`. -/
def UserUpdate.fields (c : UserUpdate) : UserFields where
  name := c.name
  phone := c.phone
  isActive := c.isActive
  teamLeaderId := reassigned c.clearTeamLeader c.teamLeaderId
  shipmentStaffId := reassigned c.clearShipmentStaff c.shipmentStaffId

namespace UserService

/-- `if id is not None:` the user must exist and hold the role. -/
def validateHolder (roleName message : String) : Option UUID → AuthTxn PUnit
  | none => pure ⟨⟩
  | some id => do
    let holder ← Txn.select (getWithPermissions id)
    let _ ← Txn.orRaise (holder.filter fun current => current.roleNames.contains roleName)
      (.notFound message)

/-- `_validate_team_leader`. -/
def validateTeamLeader : Option UUID → AuthTxn PUnit :=
  validateHolder "TEAM_LEADER" "team_leader_id does not reference a Team Leader."

/-- `_validate_shipment_staff`. -/
def validateShipmentStaff : Option UUID → AuthTxn PUnit :=
  validateHolder "SHIPMENT_STAFF" "shipment_staff_id does not reference a Shipment Staff user."

/-- `_sync_roles`. -/
def syncRoles : UUID → List UUID → AuthTxn PUnit := syncLinks userRoleLinks

/-- `get_user`. -/
def getUser (id : UUID) : AuthTxn CurrentUser := do
  let user ← Txn.select (getWithPermissions id)
  Txn.orRaise user (.notFound "User not found.")

/-- The row `create_user` adds. -/
def newUser (c : UserCreate) : User where
  id := c.id
  name := c.name
  email := c.email
  phone := c.phone
  passwordHash := sec.hashPassword c.password
  teamLeaderId := c.teamLeaderId
  shipmentStaffId := c.shipmentStaffId

/-- `create_user` up to its commit. -/
def addUser (c : UserCreate) : AuthTxn PUnit := do
  let taken ← Txn.select fun db => db.getByEmail c.email
  Txn.raiseIf (taken.isSome = true) (.conflict "A user with this email already exists.")
  validateTeamLeader c.teamLeaderId
  validateShipmentStaff c.shipmentStaffId
  Txn.flush (.insertUser (newUser sec c))
  syncRoles c.id c.roleIds

/-- `create_user`. -/
def createUser (c : UserCreate) : AuthTxn CurrentUser := do
  Txn.thenCommit (addUser sec c)
  getUser c.id

/-- `if fields: await self.users.update(user, **fields)`. -/
def writeFields (id : UUID) (fields : UserFields) : AuthTxn PUnit :=
  if fields = {} then pure ⟨⟩ else Txn.flush (.updateUser id fields)

/-- `if role_ids is not None: await self._sync_roles(user, role_ids)`. -/
def syncGivenRoles (id : UUID) : Option (List UUID) → AuthTxn PUnit
  | none => pure ⟨⟩
  | some roleIds => syncRoles id roleIds

/-- `update_user` up to its commit. -/
def changeUser (id : UUID) (c : UserUpdate) : AuthTxn PUnit := do
  let _ ← getUser id
  validateTeamLeader (if c.clearTeamLeader then none else c.teamLeaderId)
  validateShipmentStaff (if c.clearShipmentStaff then none else c.shipmentStaffId)
  writeFields id c.fields
  syncGivenRoles id c.roleIds

/-- `update_user`. -/
def updateUser (id : UUID) (c : UserUpdate) : AuthTxn CurrentUser := do
  Txn.thenCommit (changeUser id c)
  getUser id

/-- `deactivate_user`. -/
def deactivateUser (id : UUID) : AuthTxn CurrentUser := updateUser id { isActive := some false }

end UserService

/-! ## Section 6: `RBACService` -/

/-- The arguments of `create_role`, with the id its row is given. -/
structure RoleCreate where
  id : UUID
  name : String
  description : Option String := none
  permissionIds : List UUID := []
  deriving DecidableEq, Repr

/-- The arguments of `update_role`. -/
structure RoleUpdate where
  description : Option String := none
  permissionIds : Option (List UUID) := none
  deriving DecidableEq, Repr

namespace RBACService

/-- `_sync_permissions`. -/
def syncPermissions : UUID → List UUID → AuthTxn PUnit := syncLinks rolePermissionLinks

/-- `get_role`. -/
def getRole (id : UUID) : AuthTxn Role := do
  let role ← Txn.select fun db => db.getRole id
  Txn.orRaise role (.notFound "Role not found.")

/-- `create_role` up to its commit. -/
def addRole (c : RoleCreate) : AuthTxn PUnit := do
  Txn.flush (.insertRole { id := c.id, name := c.name, description := c.description })
  syncPermissions c.id c.permissionIds

/-- `create_role`. -/
def createRole (c : RoleCreate) : AuthTxn Role := do
  Txn.thenCommit (addRole c)
  getRole c.id

/-- `if description is not None: await self.roles.update(role, description=description)`. -/
def writeDescription (id : UUID) : Option String → AuthTxn PUnit
  | none => pure ⟨⟩
  | some description => Txn.flush (.describeRole id description)

/-- `if permission_ids is not None: await self._sync_permissions(role, permission_ids)`. -/
def syncGivenPermissions (id : UUID) : Option (List UUID) → AuthTxn PUnit
  | none => pure ⟨⟩
  | some permissionIds => syncPermissions id permissionIds

/-- `update_role` up to its commit. -/
def changeRole (id : UUID) (c : RoleUpdate) : AuthTxn PUnit := do
  let _ ← getRole id
  writeDescription id c.description
  syncGivenPermissions id c.permissionIds

/-- `update_role`. -/
def updateRole (id : UUID) (c : RoleUpdate) : AuthTxn Role := do
  Txn.thenCommit (changeRole id c)
  getRole id

end RBACService

end AyushOms.Auth
