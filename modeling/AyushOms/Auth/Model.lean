import AyushOms.Core.Base
import AyushOms.Lib.Batches
import AyushOms.Lib.Transaction

/-!
# Accounts, Roles and Refresh Tokens

The tables behind `app.models.auth` and `app.models.rbac`, the statements that write them and
the queries the repositories make. A user's permissions are the union over the roles the user
holds; a refresh token is a row, so that it can be revoked before it expires.

Signing and hashing are library code: what a token carries, and when it can still be read, is
stated of the pair `encode` and `decode` in `Security.Lawful`.
-/

namespace AyushOms.Auth

open AyushOms.Lib

/-! ## Section 1: Rows -/

/-- `User`. -/
structure User where
  id : UUID
  name : String
  email : String
  phone : Option String := none
  passwordHash : String
  isActive : Bool := true
  isSuperuser : Bool := false
  teamLeaderId : Option UUID := none
  shipmentStaffId : Option UUID := none
  deriving DecidableEq, Repr

/-- `Role`. -/
structure Role where
  id : UUID
  name : String
  description : Option String := none
  deriving DecidableEq, Repr

/-- `Permission`, the columns a check reads. -/
structure Permission where
  id : UUID
  code : String
  deriving DecidableEq, Repr

/-- `UserRole`. -/
structure UserRole where
  userId : UUID
  roleId : UUID
  deriving DecidableEq, Repr

/-- `RolePermission`. -/
structure RolePermission where
  roleId : UUID
  permissionId : UUID
  deriving DecidableEq, Repr

/-- `RefreshToken`. -/
structure RefreshToken where
  jti : String
  userId : UUID
  expiresAt : Instant
  revokedAt : Option Instant := none
  deriving DecidableEq, Repr

/-- `RefreshToken.is_active`. -/
def RefreshToken.isActive (token : RefreshToken) (now : Instant) : Bool :=
  token.revokedAt.isNone && decide (now < token.expiresAt)

/-! ## Section 2: Tables -/

/-- The unique columns of `users`. -/
inductive UserKey where
  | id (id : UUID)
  | email (email : String)
  deriving DecidableEq

/-- The unique columns of `roles` and of `permissions`. -/
inductive NamedKey where
  | id (id : UUID)
  | name (name : String)
  deriving DecidableEq

def User.keys (u : User) : List UserKey := [.id u.id, .email u.email]
def Role.keys (r : Role) : List NamedKey := [.id r.id, .name r.name]
def Permission.keys (p : Permission) : List NamedKey := [.id p.id, .name p.code]
def RefreshToken.keys (t : RefreshToken) : List String := [t.jti]

/-- `uq_user_roles_user_role`. -/
def UserRole.keys (r : UserRole) : List (UUID × UUID) := [(r.userId, r.roleId)]

/-- `uq_role_permissions_role_permission`. -/
def RolePermission.keys (r : RolePermission) : List (UUID × UUID) := [(r.roleId, r.permissionId)]

/-- The tables of accounts and access. -/
structure AuthDb where
  users : Table User UserKey User.keys
  roles : Table Role NamedKey Role.keys
  permissions : Table Permission NamedKey Permission.keys
  userRoles : Table UserRole (UUID × UUID) UserRole.keys
  rolePermissions : Table RolePermission (UUID × UUID) RolePermission.keys
  refreshTokens : Table RefreshToken String RefreshToken.keys
  deriving DecidableEq

namespace AuthDb

/-! ## Section 3: Repositories -/

/-- `UserRepository.get_by_email`. -/
def getByEmail (db : AuthDb) (email : String) : Option User :=
  db.users.find? fun u => u.email == email

/-- `UserRepository.get_by_id`, and the row of `get_with_permissions`. -/
def getUser (db : AuthDb) (id : UUID) : Option User := db.users.find? fun u => u.id == id

/-- `RoleRepository.get_by_id`. -/
def getRole (db : AuthDb) (id : UUID) : Option Role := db.roles.find? fun r => r.id == id

/-- `PermissionRepository.get_by_id`. -/
def getPermission (db : AuthDb) (id : UUID) : Option Permission :=
  db.permissions.find? fun p => p.id == id

/-- `RefreshTokenRepository.get_by_jti`. -/
def getByJti (db : AuthDb) (jti : String) : Option RefreshToken :=
  db.refreshTokens.find? fun t => t.jti == jti

/-- `user.user_roles`. -/
def rolesOf (db : AuthDb) (userId : UUID) : List UserRole :=
  db.userRoles.rows.filter fun r => r.userId == userId

/-- `role.role_permissions`. -/
def permissionsOf (db : AuthDb) (roleId : UUID) : List RolePermission :=
  db.rolePermissions.rows.filter fun r => r.roleId == roleId

/-- `User.role_names`. -/
def roleNames (db : AuthDb) (userId : UUID) : List String :=
  (db.rolesOf userId).filterMap fun userRole => (db.getRole userRole.roleId).map (·.name)

/-- `User.permission_codes`: the union over the roles the user holds. -/
def permissionCodes (db : AuthDb) (userId : UUID) : List String :=
  (db.rolesOf userId).flatMap fun userRole =>
    (db.permissionsOf userRole.roleId).filterMap fun rolePermission =>
      (db.getPermission rolePermission.permissionId).map (·.code)

end AuthDb

/-! ## Section 4: Writes -/

/-- The columns `UserService.update_user` sets; one that is missing stays as it is. -/
structure UserFields where
  name : Option String := none
  phone : Option String := none
  isActive : Option Bool := none
  teamLeaderId : Option (Option UUID) := none
  shipmentStaffId : Option (Option UUID) := none
  deriving DecidableEq, Repr

/-- `setattr` for every column given. -/
def UserFields.set (fields : UserFields) : Table.KeyPreserving User.keys where
  apply u :=
    { u with
      name := fields.name.getD u.name
      phone := fields.phone <|> u.phone
      isActive := fields.isActive.getD u.isActive
      teamLeaderId := fields.teamLeaderId.getD u.teamLeaderId
      shipmentStaffId := fields.shipmentStaffId.getD u.shipmentStaffId }
  keeps _ := rfl

/-- `role.description = description`. -/
def Role.describe (description : String) : Table.KeyPreserving Role.keys where
  apply r := { r with description := some description }
  keeps _ := rfl

/-- `stored.revoked_at = revoked_at`. -/
def RefreshToken.revoke (revokedAt : Instant) : Table.KeyPreserving RefreshToken.keys where
  apply t := { t with revokedAt := some revokedAt }
  keeps _ := rfl

/-- A statement that writes. -/
inductive AuthWrite where
  | insertUser (row : User)
  | updateUser (id : UUID) (fields : UserFields)
  | insertRole (row : Role)
  | describeRole (id : UUID) (description : String)
  | deleteUserRoles (rows : List UserRole)
  | insertUserRoles (rows : List UserRole)
  | deleteRolePermissions (rows : List RolePermission)
  | insertRolePermissions (rows : List RolePermission)
  | insertRefreshToken (row : RefreshToken)
  | revokeRefreshToken (jti : String) (revokedAt : Instant)
  deriving DecidableEq, Repr

/-- What the calls of this part of the service raise. -/
inductive AuthError where
  | authentication (message : String)
  | raised (e : PyException)
  deriving DecidableEq, Repr

/-- `NotFoundError(message)`. -/
def AuthError.notFound (message : String) : AuthError := .raised (.oms (.notFound message))

/-- `ConflictError(message)`. -/
def AuthError.conflict (message : String) : AuthError := .raised (.oms (.conflict message))

/-- `AuthorizationError(message)`. -/
def AuthError.authorization (message : String) : AuthError :=
  .raised (.oms (.authorization message))

/-- The table a constraint accepts, or its integrity error. -/
def accepted {α β : Type} (table : Option α) (f : α → β) : Except AuthError β :=
  match table with
  | none => .error (.raised .integrityError)
  | some t => .ok (f t)

/-- A write; the database refuses one that violates a constraint. -/
def AuthWrite.apply : AuthWrite → AuthDb → Except AuthError AuthDb
  | insertUser row, db => accepted (db.users.insert? row) fun t => { db with users := t }
  | updateUser id fields, db =>
    .ok { db with users := db.users.modify (fun u => u.id == id) fields.set }
  | insertRole row, db => accepted (db.roles.insert? row) fun t => { db with roles := t }
  | describeRole id description, db =>
    .ok { db with roles := db.roles.modify (fun r => r.id == id) (Role.describe description) }
  | deleteUserRoles rows, db =>
    .ok { db with userRoles := db.userRoles.delete fun r => rows.contains r }
  | insertUserRoles rows, db =>
    accepted (db.userRoles.insertAll? rows) fun t => { db with userRoles := t }
  | deleteRolePermissions rows, db =>
    .ok { db with rolePermissions := db.rolePermissions.delete fun r => rows.contains r }
  | insertRolePermissions rows, db =>
    accepted (db.rolePermissions.insertAll? rows) fun t => { db with rolePermissions := t }
  | insertRefreshToken row, db =>
    accepted (db.refreshTokens.insert? row) fun t => { db with refreshTokens := t }
  | revokeRefreshToken jti revokedAt, db =>
    .ok { db with refreshTokens :=
      db.refreshTokens.modify (fun t => t.jti == jti) (RefreshToken.revoke revokedAt) }

/-- A transaction on the tables of accounts and access. -/
abbrev AuthTxn (α : Type) := Txn AuthDb AuthWrite AuthError α

/-! ## Section 5: Signing and hashing -/

/-- `TokenType`. -/
inductive TokenType where
  | access
  | refresh
  deriving DecidableEq, Repr

/-- `TokenType.value`. -/
def TokenType.value : TokenType → String
  | access => "access"
  | refresh => "refresh"

/-- What the service reads from a decoded token. -/
structure Payload where
  sub : Option String
  type : Option String
  jti : Option String := none
  deriving DecidableEq, Repr

/-- `passlib`, `jose.jwt` under the server's secret and `uuid.UUID`. A token that cannot be
decoded raises `JWTError`, which is `none`. -/
structure Security (Token : Type) where
  verifyPassword : String → String → Bool
  hashPassword : String → String
  encode : Payload → Instant → Instant → Token
  decode : Instant → Token → Option Payload
  strUuid : UUID → String
  parseUuid : String → Option UUID

/-- Claims are whole seconds. -/
def wholeSeconds (t : Instant) : ℤ := t / 1000000

/-- A signed token decodes to its payload until the second of its `exp` claim is over; the
text of an identifier is read back. -/
structure Security.Lawful {Token : Type} (sec : Security Token) : Prop where
  decode_encode : ∀ now payload issuedAt expiresAt,
    sec.decode now (sec.encode payload issuedAt expiresAt) =
      if wholeSeconds expiresAt < wholeSeconds now then none else some payload
  parse_str : ∀ id, sec.parseUuid (sec.strUuid id) = some id

/-- `app.core.config.Settings`, in seconds. -/
structure Settings where
  jwtAccessTokenExpire : ℕ := 900
  jwtRefreshTokenExpire : ℕ := 1209600

/-- `timedelta(seconds=seconds)`. -/
def seconds (n : ℕ) : Instant := (n : ℤ) * 1000000

end AyushOms.Auth
